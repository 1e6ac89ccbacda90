import Pvxs.StatusDate
/-
Certificate status records (`certstatus.h`).

The PVA certificate states `certstatus_t` and the OCSP states
`ocspcertstatus_t`, the record `OCSPStatus` with its freshness tests, and
`CertificateStatus`, which adds the PVA state, with the consistency test
`selfConsistent` between the two states and `dateConsistent` against the
dates published beside a token.

* `isGood_iff` — a status is good exactly when it is fresh (`now <
  status_valid_until_date`) and its OCSP state is `OCSP_CERTSTATUS_GOOD`;
* `selfConsistent_ofPvaStatus` — the status the CMS builds from a PVA state
  alone is always self-consistent (the invariants of the data model);
* `PVACertStatus.name_isSome_iff` — `CERT_STATE` reads inside `CERT_STATES`
  exactly for the indices 0–5, while an OCSP state always names an entry of
  `OCSP_CERT_STATES` (`Ocspcertstatus.name_isSome`).

Design notes: the clock read by `std::time(nullptr)` is the explicit argument
`now`.  A PVA state read off the network is the `uint32_t` index the code
stores (`PVACertStatus.i`), so that an index outside `CERT_STATUS_LIST` can be
represented; OCSP states come from a parsed token and are always one of the
three.
-/

namespace Pvxs

/-- `certstatus_t`: the PVA certificate states, in `CERT_STATUS_LIST` order. -/
inductive Certstatus
  | unknown | pendingApproval | pending | valid | expired | revoked
  deriving DecidableEq, Repr

/-- The enumerator's value, its place in `CERT_STATUS_LIST`. -/
def Certstatus.toNat : Certstatus → ℕ
  | unknown => 0
  | pendingApproval => 1
  | pending => 2
  | valid => 3
  | expired => 4
  | revoked => 5

/-- `ocspcertstatus_t`, valued as OpenSSL's `V_OCSP_CERTSTATUS_*`. -/
inductive Ocspcertstatus
  | good | revoked | unknown
  deriving DecidableEq, Repr

/-- `CERT_STATES`: the names of the PVA states. -/
def certStates : List String :=
  ["UNKNOWN", "PENDING_APPROVAL", "PENDING", "VALID", "EXPIRED", "REVOKED"]

/-- `OCSP_CERT_STATES`: the names of the OCSP states. -/
def ocspCertStates : List String :=
  ["OCSP_CERTSTATUS_GOOD", "OCSP_CERTSTATUS_REVOKED", "OCSP_CERTSTATUS_UNKNOWN"]

/-- `CERT_STATE(index)`: the name at `index` in `CERT_STATES`; `none` is a read
outside the array. -/
def certState (index : ℕ) : Option String := certStates[index]?

/-- `OCSP_CERT_STATE(index)`. -/
def ocspCertState (index : ℕ) : Option String := ocspCertStates[index]?

/-- The enumerator's value, OpenSSL's `V_OCSP_CERTSTATUS_*`. -/
def Ocspcertstatus.toNat : Ocspcertstatus → ℕ
  | good => 0
  | revoked => 1
  | unknown => 2

/-- `OCSPCertStatus::toString`: the name the constructor stores. -/
def Ocspcertstatus.name (s : Ocspcertstatus) : Option String := ocspCertState s.toNat

/-- An OCSP state always names an entry of `OCSP_CERT_STATES`. -/
theorem Ocspcertstatus.name_isSome (s : Ocspcertstatus) : s.name.isSome := by
  cases s <;> rfl

/-- `PVACertStatus`: a PVA state as the index `i` the code stores.  Its name is
`CERT_STATE(i)`, a read of `certStates` that is inside the array only for
`i < 6`. -/
structure PVACertStatus where
  i : ℕ
  deriving DecidableEq, Repr

/-- `PVACertStatus::toString`: the name `s` the constructor stores beside `i`,
read from `CERT_STATES` at the state's value. -/
def PVACertStatus.name (p : PVACertStatus) : Option String := certState p.i

theorem PVACertStatus.name_isSome_iff (p : PVACertStatus) : p.name.isSome ↔ p.i < 6 := by
  rw [name, certState, Option.isSome_iff_ne_none, Ne, List.getElem?_eq_none_iff]
  simp [certStates]

/-- `PVACertStatus(const certstatus_t&)`. -/
def PVACertStatus.ofCertstatus (status : Certstatus) : PVACertStatus := ⟨status.toNat⟩

/-- `PVACertStatus::operator==(certstatus_t)`. -/
def PVACertStatus.is (p : PVACertStatus) (status : Certstatus) : Bool := p.i == status.toNat

/-- `OCSPStatus`: a token, its OCSP state and its three dates. -/
structure OCSPStatus where
  ocspBytes : List UInt8
  ocspStatus : Ocspcertstatus
  statusDate : StatusDate
  statusValidUntilDate : StatusDate
  revocationDate : StatusDate
  deriving DecidableEq, Repr

namespace OCSPStatus

/-- `OCSPStatus::isValid`: the status is still within its validity. -/
def isValid (st : OCSPStatus) (now : ℤ) : Bool := decide (now < st.statusValidUntilDate.t)

/-- `OCSPStatus::isGood`. -/
def isGood (st : OCSPStatus) (now : ℤ) : Bool := st.isValid now && st.ocspStatus == .good

theorem isGood_iff (st : OCSPStatus) (now : ℤ) :
    st.isGood now = true ↔ now < st.statusValidUntilDate.t ∧ st.ocspStatus = .good := by
  simp [isGood, isValid]

theorem isValid_of_isGood {st : OCSPStatus} {now : ℤ} (h : st.isGood now = true) :
    st.isValid now = true := by
  simp only [isGood, Bool.and_eq_true] at h; exact h.1

end OCSPStatus

/-- `CertificateStatus`: an `OCSPStatus` together with the PVA state. -/
structure CertificateStatus extends OCSPStatus where
  status : PVACertStatus
  deriving DecidableEq, Repr

namespace CertificateStatus

/-- `CertificateStatus::selfConsistent`: the OCSP state agrees with the PVA
state. -/
def selfConsistent (st : CertificateStatus) : Bool :=
  (st.ocspStatus == .unknown && !(st.status.is .valid || st.status.is .revoked)) ||
    (st.ocspStatus == .revoked && st.status.is .revoked) ||
    (st.ocspStatus == .good && st.status.is .valid)

/-- `CertificateStatus::dateConsistent`: the three dates agree (`StatusDate`
compares times) with dates given as text beside the token. -/
def dateConsistent (st : CertificateStatus) (statusDateValue statusValidUntilDateValue
    revocationDateValue : StatusDate) : Bool :=
  st.statusDate.t == statusDateValue.t && st.statusValidUntilDate.t == statusValidUntilDateValue.t &&
    st.revocationDate.t == revocationDateValue.t

/-- The OCSP state the CMS derives from a PVA state. -/
def ocspOfCertstatus : Certstatus → Ocspcertstatus
  | .revoked => .revoked
  | .valid => .good
  | _ => .unknown

/-- `CertificateStatus(certstatus_t, time_t, time_t)`: a status without token,
dated `now`. -/
def ofPvaStatus (pvaStatus : Certstatus) (statusValidUntilDate revocationDate now : ℤ) :
    Except Exn CertificateStatus := do
  let statusDate ← StatusDate.ofTime now
  let validUntil ← StatusDate.ofTime statusValidUntilDate
  let revocation ← StatusDate.ofTime revocationDate
  return { ocspBytes := [], ocspStatus := ocspOfCertstatus pvaStatus, statusDate,
           statusValidUntilDate := validUntil, revocationDate := revocation,
           status := .ofCertstatus pvaStatus }

theorem selfConsistent_ocspOfCertstatus (s : Certstatus) (ts vu rd : StatusDate) :
    selfConsistent { ocspBytes := [], ocspStatus := ocspOfCertstatus s, statusDate := ts,
                     statusValidUntilDate := vu, revocationDate := rd,
                     status := .ofCertstatus s } = true := by
  cases s <;> rfl

/-- Every status the CMS builds from a PVA state alone is self-consistent: GOOD
exactly for VALID, REVOKED exactly for REVOKED, UNKNOWN otherwise. -/
theorem selfConsistent_ofPvaStatus {s : Certstatus} {vu rd now : ℤ} {st : CertificateStatus}
    (h : ofPvaStatus s vu rd now = .ok st) : st.selfConsistent = true := by
  simp only [ofPvaStatus, bind, Except.bind, pure, Except.pure] at h
  split at h <;> try contradiction
  split at h <;> try contradiction
  split at h <;> try contradiction
  cases h
  exact selfConsistent_ocspOfCertstatus s _ _ _

end CertificateStatus

/-- The status PV's value (`CertStatus::getStatusPrototype`): the fields
`CertificateStatus(const Value&)` reads, each absent when the sender left it
out. -/
structure Value where
  statusIndex : Option ℤ
  ocspStatusDate : Option String
  ocspCertifiedUntil : Option String
  ocspRevocationDate : Option String
  ocspResponse : Option (List UInt8)
  deriving DecidableEq, Repr

end Pvxs
