import Pvxs.Ocsp
/-
The TLS verify hook and the peer-status cache (`ossl_verify`,
`CertStatusExData`, `CertStatusManager::getStatus`).

`ossl_verify` runs for each certificate of a peer's chain.  For a certificate
that carries the status-PV extension, with status checking enabled, it looks
up the status cached for the certificate's serial number; when there is none
or it is no longer valid it fetches the status PV with a GET over a non-TLS
channel, builds a status from the value, stores it, and accepts only a good
status.

* `ossl_verify_spec` — acceptance needs `preverify_ok`, and for a monitored
  certificate a status good at the check: the cached one while valid,
  otherwise the one just fetched and stored; a failed fetch rejects; and every
  call, accepting or not, at most stores a status it fetched;
* `ossl_verify_status_provenance` — an accepted status is the one cached under
  the serial number, or one built from the value returned for the
  certificate's own PV whose token verified GOOD;
* `ossl_verify_accepts_unbound_status` — neither is tied to the certificate:
  another serial's token, or a status cached for another issuer's certificate
  with the same serial, is accepted.

Design notes: the reply to a GET is the function `PeerEnv.get` of the PV
name, so results hold for every reply a server on the unauthenticated channel
can send.  `isValid` and `isGood` read the clock at `now` and `now'`.
-/

namespace Pvxs

/-- The parties the peer-status code talks to: OpenSSL, the local policy on
self-signed status signers, and the reply (a `Value` or a client error
message) to a GET of each PV name over the non-TLS channel. -/
structure PeerEnv where
  crypto : Crypto
  allowSelfSignedCa : Bool
  get : String → Except String Value

/-- One entry of `CertStatusExData::peer_statuses`: the cached status and
whether a status subscription is running. -/
structure PeerStatusEntry where
  status : Option CertificateStatus := none
  subscribed : Bool := false
  deriving DecidableEq, Repr

/-- `CertStatusExData`, the per-TLS-context side car. -/
structure CertStatusExData where
  statusCheckEnabled : Bool
  peerStatuses : ℕ → PeerStatusEntry

namespace CertStatusExData

/-- Modelled from the spec: `getSerialNumber` (not in src), the serial number
that keys the cache. -/
def getSerialNumber (cert : X509) : ℕ := cert.serial

/-- Modelled from the spec: `CertStatusExData::getCachedPeerStatus` (not in
src), the status cached per observed peer certificate serial. -/
def getCachedPeerStatus (ex : CertStatusExData) (serialNumber : ℕ) : Option CertificateStatus :=
  (ex.peerStatuses serialNumber).status

/-- Modelled from the spec: `CertStatusExData::setCachedPeerStatus` (not in
src): store the status under the serial number and return it. -/
def setCachedPeerStatus (ex : CertStatusExData) (serialNumber : ℕ) (status : CertificateStatus) :
    CertStatusExData :=
  let entry := { ex.peerStatuses serialNumber with status := some status }
  { ex with peerStatuses := Function.update ex.peerStatuses serialNumber entry }

@[simp] theorem getCachedPeerStatus_set_same (ex : CertStatusExData) (n : ℕ) (st : CertificateStatus) :
    (ex.setCachedPeerStatus n st).getCachedPeerStatus n = some st := by
  simp [getCachedPeerStatus, setCachedPeerStatus]

@[simp] theorem getCachedPeerStatus_set_other (ex : CertStatusExData) {n m : ℕ} (h : m ≠ n)
    (st : CertificateStatus) :
    (ex.setCachedPeerStatus n st).getCachedPeerStatus m = ex.getCachedPeerStatus m := by
  simp [getCachedPeerStatus, setCachedPeerStatus, Function.update_noteq h]

@[simp] theorem statusCheckEnabled_set (ex : CertStatusExData) (n : ℕ) (st : CertificateStatus) :
    (ex.setCachedPeerStatus n st).statusCheckEnabled = ex.statusCheckEnabled := rfl

end CertStatusExData

/-- What the `try` block of `ossl_verify` can catch: a
`CertStatusNoExtensionException`, or another `std::runtime_error`. -/
inductive VerifyExn
  | noExtension (msg : String)
  | runtime (e : Exn)
  deriving DecidableEq, Repr

namespace CertStatusManager

/-- `CertStatusManager::statusMonitoringRequired`: the certificate carries the
status-PV extension. -/
def statusMonitoringRequired (cert : X509) : Bool := cert.statusPvExt.isSome

/-- `CertStatusManager::getStatusPvFromCert`: the extension's data as a string. -/
def getStatusPvFromCert (cert : X509) : Except VerifyExn String :=
  match cert.statusPvExt with
  | some data => .ok (String.mk (data.map fun b => Char.ofNat b.toNat))
  | none => .error (.noExtension "Failed to find extension index")

/-- `CertStatusManager::getPVAStatus(uri)`: GET the PV and build the status
from the value alone. -/
def getPVAStatus (env : PeerEnv) (uri : String) (now : ℤ) : Except Exn CertificateStatus :=
  match env.get uri with
  | .ok result => PVACertificateStatus.ofValue env.crypto env.allowSelfSignedCa now result
  | .error msg => .error (.runtime msg)

/-- `CertStatusManager::getStatus(cert)`: the status of the PV the certificate
names. -/
def getStatus (env : PeerEnv) (cert : X509) (now : ℤ) : Except VerifyExn CertificateStatus := do
  let uri ← getStatusPvFromCert cert
  (getPVAStatus env uri now).mapError .runtime

/-- For a certificate with the extension, fetching its status fails only with
a `std::runtime_error` that is not `CertStatusNoExtensionException`. -/
theorem getStatus_error {env : PeerEnv} {cert : X509} {now : ℤ} {e : VerifyExn}
    (hmon : statusMonitoringRequired cert = true) (h : getStatus env cert now = .error e) :
    ∃ e', e = .runtime e' := by
  unfold statusMonitoringRequired at hmon
  unfold getStatus getStatusPvFromCert at h
  obtain ⟨data, hd⟩ := Option.isSome_iff_exists.mp hmon
  simp only [hd, bind, Except.bind, Except.mapError] at h
  split at h <;> cases h
  exact ⟨_, rfl⟩

theorem mapError_eq_ok {ε ε' α : Type} {x : Except ε α} {f : ε → ε'} {a : α} :
    x.mapError f = .ok a ↔ x = .ok a := by
  cases x <;> simp [Except.mapError]

/-- A successful fetch: the value the certificate's PV returned, and the status
built from it. -/
theorem getStatus_eq_ok {env : PeerEnv} {cert : X509} {now : ℤ} {st : CertificateStatus}
    (h : getStatus env cert now = .ok st) :
    ∃ uri v, getStatusPvFromCert cert = .ok uri ∧ env.get uri = .ok v ∧
      PVACertificateStatus.ofValue env.crypto env.allowSelfSignedCa now v = .ok st := by
  obtain ⟨uri, hu, h⟩ := bind_eq_ok.mp h
  refine ⟨uri, ?_⟩
  unfold getPVAStatus at h
  cases hg : env.get uri with
  | error msg => simp [hg, Except.mapError] at h
  | ok v => exact ⟨v, hu, rfl, by simpa [hg, mapError_eq_ok] using h⟩

end CertStatusManager

open CertStatusManager

/-- What `ossl_verify` does with a certificate: return to the TLS library, or
end the process (`exit(1)`). -/
inductive VerifyResult
  | ret (n : ℤ)
  | exit (code : ℤ)
  deriving DecidableEq, Repr

/-- `X509_V_ERR_UNABLE_TO_GET_ISSUER_CERT_LOCALLY`,
`X509_V_ERR_DEPTH_ZERO_SELF_SIGNED_CERT`, `X509_V_ERR_SELF_SIGNED_CERT_IN_CHAIN`. -/
def selfSignedErrors : List ℤ := [20, 18, 19]

/-- The cached status is missing or no longer valid. -/
def CertStatusExData.stale (ex : CertStatusExData) (serialNumber : ℕ) (now : ℤ) : Prop :=
  ∀ st, ex.getCachedPeerStatus serialNumber = some st → st.isValid now = false

/-- The status `ossl_verify` relies on, in its `try` block: the cached one while
valid, otherwise one fetched with `getStatus` and stored with
`setCachedPeerStatus`. -/
def currentPeerStatus (env : PeerEnv) (ex : CertStatusExData) (cert : X509) (now : ℤ) :
    Except VerifyExn (CertificateStatus × CertStatusExData) :=
  let fetch : Except VerifyExn (CertificateStatus × CertStatusExData) := do
    let st ← getStatus env cert now
    pure (st, ex.setCachedPeerStatus (CertStatusExData.getSerialNumber cert) st)
  match ex.getCachedPeerStatus (CertStatusExData.getSerialNumber cert) with
  | some st => if st.isValid now then .ok (st, ex) else fetch
  | none => fetch

/-- `ossl_verify(preverify_ok, x509_ctx)` for the current certificate `cert`
with verification error `err`, the context's side car `ex`, and the clock at
`isValid` (`now`) and at `isGood` (`now'`). -/
def ossl_verify (env : PeerEnv) (ex : CertStatusExData) (preverifyOk : ℤ) (cert : X509) (err : ℤ)
    (now now' : ℤ) : VerifyResult × CertStatusExData :=
  if preverifyOk ≠ 0 then
    if !statusMonitoringRequired cert then (.ret preverifyOk, ex)
    else if ex.statusCheckEnabled then
      match currentPeerStatus env ex cert now with
      | .ok (st, ex') => if !st.isGood now' then (.ret 0, ex') else (.ret preverifyOk, ex')
      | .error (.noExtension _) => (.exit 1, ex)
      | .error (.runtime _) => (.ret 0, ex)
    else (.ret preverifyOk, ex)
  else if err ∈ selfSignedErrors then (.ret preverifyOk, ex)
  else (.ret preverifyOk, ex)

theorem currentPeerStatus_eq_ok {env : PeerEnv} {ex ex' : CertStatusExData} {cert : X509} {now : ℤ}
    {st : CertificateStatus} (h : currentPeerStatus env ex cert now = .ok (st, ex')) :
    (ex.getCachedPeerStatus cert.serial = some st ∧ st.isValid now = true ∧ ex' = ex) ∨
      (ex.stale cert.serial now ∧ getStatus env cert now = .ok st ∧
        ex' = ex.setCachedPeerStatus cert.serial st) := by
  unfold currentPeerStatus at h
  cases hc : ex.getCachedPeerStatus cert.serial with
  | none =>
    obtain ⟨st', hs, h⟩ := bind_eq_ok.mp (by simpa [CertStatusExData.getSerialNumber, hc] using h)
    cases h
    exact .inr ⟨fun c h' => by simp [hc] at h', hs, rfl⟩
  | some c =>
    simp only [CertStatusExData.getSerialNumber, hc] at h
    split at h
    · cases h; exact .inl ⟨rfl, ‹_›, rfl⟩
    · obtain ⟨st', hs, h⟩ := bind_eq_ok.mp h
      cases h
      exact .inr ⟨fun c' h' => by simp_all, hs, rfl⟩

theorem currentPeerStatus_eq_error {env : PeerEnv} {ex : CertStatusExData} {cert : X509} {now : ℤ}
    {e : VerifyExn} (h : currentPeerStatus env ex cert now = .error e) :
    ex.stale cert.serial now ∧ getStatus env cert now = .error e := by
  unfold currentPeerStatus at h
  cases hc : ex.getCachedPeerStatus cert.serial with
  | none =>
    simp only [CertStatusExData.getSerialNumber, hc, bind, Except.bind] at h
    split at h <;> cases h
    exact ⟨fun c h' => by simp [hc] at h', ‹_›⟩
  | some c =>
    simp only [CertStatusExData.getSerialNumber, hc, bind, Except.bind] at h
    split at h
    · cases h
    · split at h <;> cases h
      exact ⟨fun c' h' => by simp_all, ‹_›⟩

theorem currentPeerStatus_of_stale {env : PeerEnv} {ex : CertStatusExData} {cert : X509} {now : ℤ}
    (hs : ex.stale cert.serial now) :
    currentPeerStatus env ex cert now =
      (getStatus env cert now).map fun st => (st, ex.setCachedPeerStatus cert.serial st) := by
  unfold currentPeerStatus CertStatusExData.getSerialNumber
  cases hc : ex.getCachedPeerStatus cert.serial with
  | none => cases getStatus env cert now <;> rfl
  | some c =>
    simp only [hs c hc]
    cases getStatus env cert now <;> rfl

/-- What `ossl_verify` can do to the side car: nothing, or store a status it
just fetched under the certificate's serial number. -/
theorem ossl_verify_state (env : PeerEnv) (ex : CertStatusExData) (preverifyOk : ℤ) (cert : X509)
    (err now now' : ℤ) :
    (ossl_verify env ex preverifyOk cert err now now').2 = ex ∨
      ∃ st, getStatus env cert now = .ok st ∧
        (ossl_verify env ex preverifyOk cert err now now').2 = ex.setCachedPeerStatus cert.serial st := by
  unfold ossl_verify
  split_ifs <;> try exact .inl rfl
  split
  · rename_i st ex' hcur
    have hex : ex' = ex ∨ ∃ st, getStatus env cert now = .ok st ∧ ex' = ex.setCachedPeerStatus cert.serial st := by
      rcases currentPeerStatus_eq_ok hcur with ⟨-, -, h⟩ | ⟨-, hs, h⟩
      exacts [.inl h, .inr ⟨st, hs, h⟩]
    split <;> exact hex
  all_goals exact .inl rfl

/-- Acceptance needs `preverify_ok`, and for a monitored certificate a status
good at the check: the cached one while valid, or the one just fetched and
stored. -/
theorem ossl_verify_accepts {env : PeerEnv} {ex : CertStatusExData} {preverifyOk : ℤ} {cert : X509}
    {err now now' n : ℤ} (h : (ossl_verify env ex preverifyOk cert err now now').1 = .ret n)
    (hn : n ≠ 0) :
    preverifyOk ≠ 0 ∧
      (statusMonitoringRequired cert = true → ex.statusCheckEnabled = true →
        ∃ st, st.isGood now' = true ∧
          ((ex.getCachedPeerStatus cert.serial = some st ∧ st.isValid now = true ∧
              (ossl_verify env ex preverifyOk cert err now now').2 = ex) ∨
            (ex.stale cert.serial now ∧ getStatus env cert now = .ok st ∧
              (ossl_verify env ex preverifyOk cert err now now').2 =
                ex.setCachedPeerStatus cert.serial st))) := by
  unfold ossl_verify at h ⊢
  by_cases hp : preverifyOk = 0
  · simp only [hp, ne_eq, not_true_eq_false, if_false] at h
    split at h <;> (cases h; exact absurd rfl hn)
  refine ⟨hp, fun hmon hen => ?_⟩
  simp only [hp, ne_eq, not_false_eq_true, if_true] at h ⊢
  simp only [hmon, hen, Bool.not_true, Bool.false_eq_true, if_false, if_true] at h ⊢
  split at h
  · rename_i st ex' hcur
    split at h
    · cases h; exact absurd rfl hn
    · refine ⟨st, by simpa using ‹¬(!_) = true›, ?_⟩
      simp only [hcur, ‹¬_›, if_false]
      exact currentPeerStatus_eq_ok hcur
  · cases h
  · cases h; exact absurd rfl hn

/-- A fetch that fails, for a monitored certificate whose cached status is
missing or stale, makes `ossl_verify` return 0. -/
theorem ossl_verify_fetch_error {env : PeerEnv} {ex : CertStatusExData} {preverifyOk : ℤ}
    {cert : X509} {err now now' : ℤ} {e : VerifyExn} (hp : preverifyOk ≠ 0)
    (hmon : statusMonitoringRequired cert = true) (hen : ex.statusCheckEnabled = true)
    (hs : ex.stale cert.serial now) (he : getStatus env cert now = .error e) :
    (ossl_verify env ex preverifyOk cert err now now').1 = .ret 0 := by
  obtain ⟨e', rfl⟩ := getStatus_error hmon he
  simp [ossl_verify, hp, hmon, hen, currentPeerStatus_of_stale hs, he, Except.map]

/-- `ossl_verify` never reaches its `exit(1)`: a certificate it monitors has the
extension, so `CertStatusNoExtensionException` is never thrown. -/
theorem ossl_verify_ne_exit (env : PeerEnv) (ex : CertStatusExData) (preverifyOk : ℤ) (cert : X509)
    (err now now' code : ℤ) : (ossl_verify env ex preverifyOk cert err now now').1 ≠ .exit code := by
  unfold ossl_verify
  split_ifs <;> try simp
  split
  · split <;> simp
  · rename_i hcur
    obtain ⟨-, he⟩ := currentPeerStatus_eq_error hcur
    obtain ⟨_, h⟩ := getStatus_error (by simpa using ‹¬(!_) = true›) he
    cases h
  · simp

/-- **What `ossl_verify` decides.**  It returns non-zero only when
`preverify_ok` is non-zero; for a monitored certificate with status checking
enabled, only when the status it consulted is fresh at `isGood()` and
`OCSP_CERTSTATUS_GOOD`, that status being the cached one while valid and
otherwise the one fetched and stored.  A failed fetch returns 0, and the
`exit(1)` branch is never taken.  Whatever it returns, it leaves the side car
as it was or stores, under the serial number, a status it just fetched. -/
theorem ossl_verify_spec (env : PeerEnv) (ex : CertStatusExData) (preverifyOk : ℤ) (cert : X509)
    (err now now' : ℤ) :
    (∀ n, (ossl_verify env ex preverifyOk cert err now now').1 = .ret n → n ≠ 0 →
      preverifyOk ≠ 0 ∧
        (statusMonitoringRequired cert = true → ex.statusCheckEnabled = true →
          ∃ st : CertificateStatus, (now' < st.statusValidUntilDate.t ∧ st.ocspStatus = .good) ∧
            ((ex.getCachedPeerStatus cert.serial = some st ∧ st.isValid now = true ∧
                (ossl_verify env ex preverifyOk cert err now now').2 = ex) ∨
              (ex.stale cert.serial now ∧ getStatus env cert now = .ok st ∧
                (ossl_verify env ex preverifyOk cert err now now').2 =
                  ex.setCachedPeerStatus cert.serial st)))) ∧
    (preverifyOk ≠ 0 → statusMonitoringRequired cert = true → ex.statusCheckEnabled = true →
      ex.stale cert.serial now → ∀ e, getStatus env cert now = .error e →
        (ossl_verify env ex preverifyOk cert err now now').1 = .ret 0) ∧
    (∀ code, (ossl_verify env ex preverifyOk cert err now now').1 ≠ .exit code) ∧
    ((ossl_verify env ex preverifyOk cert err now now').2 = ex ∨
      ∃ st, getStatus env cert now = .ok st ∧
        (ossl_verify env ex preverifyOk cert err now now').2 = ex.setCachedPeerStatus cert.serial st) := by
  refine ⟨fun n h hn => ?_, fun hp hmon hen hs _ he => ossl_verify_fetch_error hp hmon hen hs he,
    ossl_verify_ne_exit env ex preverifyOk cert err now now', ossl_verify_state env ex preverifyOk cert err now now'⟩
  obtain ⟨hp, hst⟩ := ossl_verify_accepts h hn
  refine ⟨hp, fun hmon hen => ?_⟩
  obtain ⟨st, hg, hsrc⟩ := hst hmon hen
  exact ⟨st, (OCSPStatus.isGood_iff _ _).mp hg, hsrc⟩

/-! ### Where an accepted status comes from -/

/-- **Provenance of an accepted status.**  If `ossl_verify(1, ctx)` accepts a
monitored certificate, the status it relied on is good at the check and is
either the entry cached under the certificate's serial number, or one built
from the value the certificate's own status PV returned, whose token decoded,
verified and reads GOOD with the status's validity end. -/
theorem ossl_verify_status_provenance {env : PeerEnv} {ex : CertStatusExData} {cert : X509}
    {err now now' n : ℤ} (hmon : statusMonitoringRequired cert = true)
    (hen : ex.statusCheckEnabled = true) (h : (ossl_verify env ex 1 cert err now now').1 = .ret n)
    (hn : n ≠ 0) :
    ∃ st : CertificateStatus, st.isGood now' = true ∧
      (ex.getCachedPeerStatus cert.serial = some st ∨
        ∃ uri v p, getStatusPvFromCert cert = .ok uri ∧ env.get uri = .ok v ∧
          v.ocspResponse = some st.ocspBytes ∧
          parse env.crypto st.ocspBytes env.allowSelfSignedCa "" now = .ok p ∧
          p.ocspStatus = .good ∧ p.statusValidUntilDate = st.statusValidUntilDate) := by
  obtain ⟨-, hst⟩ := ossl_verify_accepts h hn
  obtain ⟨st, hg, ⟨hc, -, -⟩ | ⟨-, hs, -⟩⟩ := hst hmon hen
  · exact ⟨st, hg, .inl hc⟩
  · obtain ⟨uri, v, hu, hv, hof⟩ := getStatus_eq_ok hs
    obtain ⟨hb, p, hp, hgood, hvu⟩ := CertificateStatus.ofValue_good hof ((OCSPStatus.isGood_iff _ _).mp hg).2
    exact ⟨st, hg, .inr ⟨uri, v, p, hu, hv, hb, hp, hgood, hvu⟩⟩

/-- The bytes of a status PV name, as the extension carries them. -/
def statusPv (name : String) : List UInt8 := name.toList.map fun c => c.toNat.toUInt8

/-- A peer certificate with serial 7, issued by the CMS's CA. -/
def peerCert : X509 := ⟨7, "CN=EPICS Root CA", some (statusPv "CERT:STATUS:0001:7")⟩

/-- The certificate with serial 42 that the CMS's token is about. -/
def tokenCert : X509 := ⟨42, "CN=EPICS Root CA", some (statusPv "CERT:STATUS:0001:42")⟩

/-- A certificate of another CA that has the same serial 42. -/
def otherIssuerCert : X509 := ⟨42, "CN=Other CA", some (statusPv "CERT:STATUS:0002:42")⟩

/-- The value the CMS publishes for serial 42: VALID, its GOOD token, and the
token's dates as text. -/
def replayedValue : Value :=
  { statusIndex := some 3, ocspStatusDate := some "Mon Jan 01 00:00:00 2024 UTC",
    ocspCertifiedUntil := some "Mon Jan 01 00:30:00 2024 UTC", ocspRevocationDate := some "",
    ocspResponse := some [0] }

/-- A server on the non-TLS channel that answers every status PV with serial
42's value. -/
def replayEnv : PeerEnv := ⟨cmsCrypto, false, fun _ => .ok replayedValue⟩

/-- No status PV answers. -/
def unreachableEnv : PeerEnv := ⟨cmsCrypto, false, fun _ => .error "Timeout"⟩

/-- A context with status checking enabled and nothing cached. -/
def freshExData : CertStatusExData := ⟨true, fun _ => {}⟩

/-- One minute after the token was signed. -/
def checkTime : ℤ := 1704067200 + 60

/-- A fetch for `peerCert` accepted by `ossl_verify`, an instance of the
provenance theorem. -/
theorem ossl_verify_status_provenance_replay :
    statusMonitoringRequired peerCert = true ∧ freshExData.statusCheckEnabled = true ∧
      (ossl_verify replayEnv freshExData 1 peerCert 0 checkTime checkTime).1 = .ret 1 ∧
      ∃ st : CertificateStatus, st.isGood checkTime = true ∧
        (freshExData.getCachedPeerStatus peerCert.serial = some st ∨
          ∃ uri v p, getStatusPvFromCert peerCert = .ok uri ∧ replayEnv.get uri = .ok v ∧
            v.ocspResponse = some st.ocspBytes ∧
            parse replayEnv.crypto st.ocspBytes replayEnv.allowSelfSignedCa "" checkTime = .ok p ∧
            p.ocspStatus = .good ∧ p.statusValidUntilDate = st.statusValidUntilDate) :=
  have h : (ossl_verify replayEnv freshExData 1 peerCert 0 checkTime checkTime).1 = .ret 1 := by
    decide
  ⟨rfl, rfl, h, ossl_verify_status_provenance rfl rfl h (by decide)⟩

/-- **The accepted status is not bound to the certificate.**  The token that
`ossl_verify` accepts for `peerCert` (serial 7) names serial 42; and after
`tokenCert` (serial 42) was checked, `otherIssuerCert`, of another CA but with
the same serial, is accepted on `tokenCert`'s cached status although its own
status PV cannot be reached. -/
theorem ossl_verify_accepts_unbound_status :
    (cmsResponse.basic.map fun b => b.responses.map fun r => r.certId) =
        some [⟨"CN=EPICS Root CA", 42⟩] ∧
      peerCert.serial = 7 ∧
      (ossl_verify replayEnv freshExData 1 peerCert 0 checkTime checkTime).1 = .ret 1 ∧
      (otherIssuerCert.serial = tokenCert.serial ∧ otherIssuerCert.issuer ≠ tokenCert.issuer ∧
        (ossl_verify unreachableEnv
          (ossl_verify replayEnv freshExData 1 tokenCert 0 checkTime checkTime).2
          1 otherIssuerCert 0 checkTime checkTime).1 = .ret 1) := by
  decide

end Pvxs
