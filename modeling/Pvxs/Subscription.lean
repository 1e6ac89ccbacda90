import Pvxs.PeerStatus
/-
Status subscriptions on the peer-status cache
(`CertStatusExData::subscribeToCertStatus`, `CertStatusManager::subscribe`).

A TLS context subscribes to the status PV of a peer certificate.  Each monitor
update is turned into a `PVACertificateStatus` by the event handler; the
callback stores it under the certificate's serial number and calls `fn` with
the new goodness when it differs from the goodness of the entry it replaces.
`ossl_verify` refreshes the same entry when it is stale.  Updates, refreshes
and the passage of time are the steps of one system (`MonitorState.step`);
`lastFn` records the argument of the last call of `fn`.

* `step_update_of_error` — an update that yields no status leaves the state
  unchanged: the event handler swallows the exception;
* `step_update_agree` — an update keeps `fn`'s last value equal to the
  goodness of the cached status, but only if it was so before;
* `subscription_misses_revocation` — a good status that expires while cached
  shifts the baseline, and the later move to REVOKED is never reported;
* `run_updates_lastFn_eq_cachedGood` — along a run of updates alone, with no
  tick and no refresh, `fn`'s last value stays the cached goodness;
* `run_cacheVerified` — every GOOD status the cache holds along a run was
  built from a token that passed `parse`;
* `monitor_acceptance_spec` — a failed update is a no-op, so a status cached
  before it is still accepted while valid and good; and every acceptance along
  a run rests on the status cached under the serial number or the one just
  fetched, good and built from a verified token, which the side car then
  holds;
* `ossl_verify_accepts_after_failed_update` — so after a corrupt update the
  status cached before it is still accepted.

Design notes: one clock value serves every read of a step (`isValid`,
`isGood`); time moves only in `tick` steps.  A refresh is a handshake that runs
`ossl_verify(1, ctx)` on the certificate, its GET answered by any function.
-/

namespace Pvxs

open CertStatusManager

/-- The monitored peer certificate, and the OpenSSL and policy on self-signed
status signers the status code runs with. -/
structure Monitor where
  crypto : Crypto
  allowSelfSignedCa : Bool
  cert : X509

/-- The parties of a refresh whose GET is answered by `get`. -/
def Monitor.env (m : Monitor) (get : String → Except String Value) : PeerEnv :=
  ⟨m.crypto, m.allowSelfSignedCa, get⟩

/-- What one subscription touches: the context's side car, the clock, and the
argument of the last call of `fn` (`false` before the first). -/
structure MonitorState where
  ex : CertStatusExData
  clock : ℤ
  lastFn : Bool := false

/-- The steps of the system. -/
inductive MonitorStep
  /-- a monitor update delivering a value of the status PV -/
  | update (v : Value)
  /-- a handshake running `ossl_verify` on the certificate, its GET answered by `get` -/
  | refresh (get : String → Except String Value)
  /-- the passage of `dt` seconds -/
  | tick (dt : ℕ)

/-- The callback `subscribeToCertStatus` registers: store the status under the
serial number, and call `fn` (`some b` is the call `fn(b)`) when the goodness
of the stored status differs from that of the entry it replaces, both read at
`now`. -/
def statusCallback (ex : CertStatusExData) (serialNumber : ℕ) (status : CertificateStatus)
    (now : ℤ) : CertStatusExData × Option Bool :=
  let previousStatus := ex.getCachedPeerStatus serialNumber
  let wasGood := previousStatus.any fun p => p.isGood now
  let ex' := ex.setCachedPeerStatus serialNumber status
  let currentStatus := ex'.getCachedPeerStatus serialNumber
  let isGood := currentStatus.any fun c => c.isGood now
  (ex', if isGood != wasGood then some isGood else none)

/-- The event handler of `CertStatusManager::subscribe` running the callback:
build the status from the update, or catch the exception
(`catch (std::exception&)`) and do nothing. -/
def monitorEvent (m : Monitor) (ex : CertStatusExData) (update : Value) (now : ℤ) :
    CertStatusExData × Option Bool :=
  match PVACertificateStatus.ofValue m.crypto m.allowSelfSignedCa now update with
  | .ok statusUpdate => statusCallback ex (CertStatusExData.getSerialNumber m.cert) statusUpdate now
  | .error _ => (ex, none)

namespace MonitorState

/-- One step of the system. -/
def step (m : Monitor) (s : MonitorState) : MonitorStep → MonitorState
  | .update v =>
    let r := monitorEvent m s.ex v s.clock
    { s with ex := r.1, lastFn := r.2.getD s.lastFn }
  | .refresh get => { s with ex := (ossl_verify (m.env get) s.ex 1 m.cert 0 s.clock s.clock).2 }
  | .tick dt => { s with clock := s.clock + dt }

/-- A run of steps. -/
def run (m : Monitor) (s : MonitorState) (steps : List MonitorStep) : MonitorState :=
  steps.foldl (step m) s

@[simp] theorem run_nil (m : Monitor) (s : MonitorState) : s.run m [] = s := rfl

@[simp] theorem run_cons (m : Monitor) (s : MonitorState) (a : MonitorStep) (steps : List MonitorStep) :
    s.run m (a :: steps) = (s.step m a).run m steps := rfl

/-- The goodness, read at the state's clock, of the status cached for the
monitored certificate. -/
def cachedGood (m : Monitor) (s : MonitorState) : Bool :=
  (s.ex.getCachedPeerStatus m.cert.serial).any fun p => p.isGood s.clock

variable {m : Monitor} {s : MonitorState} {v : Value}

/-- **A failed update is a no-op.** -/
theorem step_update_of_error {e : Exn}
    (h : PVACertificateStatus.ofValue m.crypto m.allowSelfSignedCa s.clock v = .error e) :
    s.step m (.update v) = s := by
  simp [step, monitorEvent, h]

/-- A successful update stores the status and calls `fn` with its goodness
when that differs from the goodness of the entry it replaces. -/
theorem step_update_of_ok {st : CertificateStatus}
    (h : PVACertificateStatus.ofValue m.crypto m.allowSelfSignedCa s.clock v = .ok st) :
    s.step m (.update v) =
      { s with ex := s.ex.setCachedPeerStatus m.cert.serial st,
               lastFn := if st.isGood s.clock != s.cachedGood m then st.isGood s.clock else s.lastFn } := by
  simp only [step, monitorEvent, h, statusCallback, cachedGood, CertStatusExData.getSerialNumber,
    CertStatusExData.getCachedPeerStatus_set_same, Option.any_some]
  split <;> rfl

/-- An update leaves `fn`'s last value equal to the goodness of the cached
status, provided it was equal before. -/
theorem step_update_agree (h : s.lastFn = s.cachedGood m) :
    (s.step m (.update v)).lastFn = (s.step m (.update v)).cachedGood m := by
  cases hv : PVACertificateStatus.ofValue m.crypto m.allowSelfSignedCa s.clock v with
  | error e => rw [step_update_of_error hv]; exact h
  | ok st =>
    rw [step_update_of_ok hv]
    simp only [cachedGood, CertStatusExData.getCachedPeerStatus_set_same, Option.any_some]
    split <;> simp_all [cachedGood]

end MonitorState

/-! ### A revocation that is never reported -/

/-- `thisUpdate` of the CMS's REVOKED token, forty minutes after its GOOD one. -/
def revokedThisUpdate : Asn1Time := ⟨2024, 1, 1, 0, 40, 0⟩

/-- The CMS's REVOKED token for serial 42. -/
def revokedResponse : OCSPResponse :=
  ⟨0, some ⟨some cmsSigner, [cmsSigner],
    [⟨⟨"CN=EPICS Root CA", 42⟩, .revoked, revokedThisUpdate, some ⟨2024, 1, 1, 1, 10, 0⟩,
      some revokedThisUpdate⟩]⟩⟩

/-- An OpenSSL under which the bytes `[0]` are the GOOD token, `[1]` the REVOKED
one, and every other byte string fails to decode. -/
def monitorCrypto : Crypto :=
  ⟨fun b => if b = [0] then some cmsResponse else if b = [1] then some revokedResponse else none,
    fun _ => true, fun _ _ => none, fun _ => true, fun _ => true⟩

/-- The subscription of a context to `tokenCert`'s status. -/
def tokenMonitor : Monitor := ⟨monitorCrypto, false, tokenCert⟩

/-- The value the CMS publishes once serial 42 is revoked. -/
def revokedValue : Value :=
  { statusIndex := some 5, ocspStatusDate := some "Mon Jan 01 00:40:00 2024 UTC",
    ocspCertifiedUntil := some "Mon Jan 01 01:10:00 2024 UTC",
    ocspRevocationDate := some "Mon Jan 01 00:40:00 2024 UTC", ocspResponse := some [1] }

/-- The GOOD value delivered when the token is signed, forty minutes passing,
then the REVOKED value. -/
def revocationRun : MonitorState :=
  MonitorState.run tokenMonitor ⟨freshExData, 1704067200, false⟩
    [.update replayedValue, .tick 2400, .update revokedValue]

/-- After the run `fn` was last called with `true`, while the cached status is
REVOKED and not good. -/
theorem subscription_misses_revocation :
    revocationRun.lastFn = true ∧
      (revocationRun.ex.getCachedPeerStatus 42).map (·.ocspStatus) = some .revoked ∧
      revocationRun.cachedGood tokenMonitor = false := by
  decide

/-- **Updates alone keep `fn` in step.**  Along a run of monitor updates with
no passage of time and no refresh by `ossl_verify`, from a state where `fn`'s
last value is the goodness of the cached status (a fresh context, say), it
stays so after every update: only a tick or a refresh can leave a change of
goodness unreported. -/
theorem run_updates_lastFn_eq_cachedGood (m : Monitor) (s : MonitorState) (vs : List Value)
    (h : s.lastFn = s.cachedGood m) :
    (s.run m (vs.map .update)).lastFn = (s.run m (vs.map .update)).cachedGood m := by
  induction vs generalizing s with
  | nil => exact h
  | cons v vs ih => exact ih _ (MonitorState.step_update_agree h)

/-- With no time passing between them, the GOOD and then the REVOKED value are
both reported. -/
theorem run_updates_lastFn_eq_cachedGood_revoked :
    (⟨freshExData, 1704067200, false⟩ : MonitorState).lastFn =
        (⟨freshExData, 1704067200, false⟩ : MonitorState).cachedGood tokenMonitor ∧
      (MonitorState.run tokenMonitor ⟨freshExData, 1704067200, false⟩
          ([replayedValue, revokedValue].map .update)).lastFn =
        (MonitorState.run tokenMonitor ⟨freshExData, 1704067200, false⟩
          ([replayedValue, revokedValue].map .update)).cachedGood tokenMonitor :=
  ⟨rfl, run_updates_lastFn_eq_cachedGood tokenMonitor _ _ rfl⟩

/-! ### Every acceptance rests on a verified token -/

namespace Monitor

/-- A status in state GOOD was built from a token that passes `parse` with
state GOOD and the status's validity end. -/
def Verified (m : Monitor) (st : CertificateStatus) : Prop :=
  st.ocspStatus = .good → ∃ now p, parse m.crypto st.ocspBytes m.allowSelfSignedCa "" now = .ok p ∧
    p.ocspStatus = .good ∧ p.statusValidUntilDate = st.statusValidUntilDate

/-- Every cached status is `Verified`. -/
def CacheVerified (m : Monitor) (ex : CertStatusExData) : Prop :=
  ∀ n st, ex.getCachedPeerStatus n = some st → m.Verified st

variable {m : Monitor}

theorem verified_of_ofValue {now : ℤ} {v : Value} {st : CertificateStatus}
    (h : PVACertificateStatus.ofValue m.crypto m.allowSelfSignedCa now v = .ok st) : m.Verified st :=
  fun hg => by
    obtain ⟨-, p, hp, hs, hv⟩ := CertificateStatus.ofValue_good h hg
    exact ⟨now, p, hp, hs, hv⟩

theorem verified_of_getStatus {get : String → Except String Value} {cert : X509} {now : ℤ}
    {st : CertificateStatus} (h : getStatus (m.env get) cert now = .ok st) : m.Verified st := by
  obtain ⟨_, _, -, -, hv⟩ := getStatus_eq_ok h
  exact verified_of_ofValue hv

theorem cacheVerified_set {ex : CertStatusExData} {n : ℕ} {st : CertificateStatus}
    (h : m.CacheVerified ex) (hst : m.Verified st) : m.CacheVerified (ex.setCachedPeerStatus n st) := by
  intro k st' hk
  by_cases hkn : k = n
  · subst hkn
    simp only [CertStatusExData.getCachedPeerStatus_set_same, Option.some.injEq] at hk
    exact hk ▸ hst
  · exact h k st' (by simpa [hkn] using hk)

theorem cacheVerified_fresh : m.CacheVerified freshExData := fun _ _ h => by cases h

end Monitor

namespace MonitorState

variable {m : Monitor} {s : MonitorState}

theorem step_cacheVerified (a : MonitorStep) (h : m.CacheVerified s.ex) :
    m.CacheVerified (s.step m a).ex := by
  cases a with
  | update v =>
    cases hv : PVACertificateStatus.ofValue m.crypto m.allowSelfSignedCa s.clock v with
    | error e => rwa [step_update_of_error hv]
    | ok st =>
      rw [step_update_of_ok hv]
      exact Monitor.cacheVerified_set h (Monitor.verified_of_ofValue hv)
  | refresh get =>
    rcases ossl_verify_state (m.env get) s.ex 1 m.cert 0 s.clock s.clock with hs | ⟨st, hst, hs⟩
    · simpa [step, hs] using h
    · simpa [step, hs] using Monitor.cacheVerified_set h (Monitor.verified_of_getStatus hst)
  | tick dt => exact h

theorem run_cacheVerified (steps : List MonitorStep) (h : m.CacheVerified s.ex) :
    m.CacheVerified (s.run m steps).ex := by
  induction steps generalizing s with
  | nil => exact h
  | cons a steps ih => exact ih (step_cacheVerified a h)

theorem step_statusCheckEnabled (a : MonitorStep) :
    (s.step m a).ex.statusCheckEnabled = s.ex.statusCheckEnabled := by
  cases a with
  | update v =>
    cases hv : PVACertificateStatus.ofValue m.crypto m.allowSelfSignedCa s.clock v with
    | error e => rw [step_update_of_error hv]
    | ok st => rw [step_update_of_ok hv]; rfl
  | refresh get =>
    rcases ossl_verify_state (m.env get) s.ex 1 m.cert 0 s.clock s.clock with hs | ⟨st, -, hs⟩
    · simp [step, hs]
    · simp [step, hs]
  | tick dt => rfl

theorem run_statusCheckEnabled (steps : List MonitorStep) :
    (s.run m steps).ex.statusCheckEnabled = s.ex.statusCheckEnabled := by
  induction steps generalizing s with
  | nil => rfl
  | cons a steps ih => rw [run_cons, ih, step_statusCheckEnabled]

/-- An acceptance by `ossl_verify` from a side car whose cache is verified rests
on a status good at the check and built from a verified token: the one cached
under the serial number, or the one just fetched; either way the side car
holds it afterwards. -/
theorem accepts_verified {get : String → Except String Value} {ex : CertStatusExData}
    {err now now' n : ℤ} (hmon : statusMonitoringRequired m.cert = true)
    (hen : ex.statusCheckEnabled = true) (hc : m.CacheVerified ex)
    (h : (ossl_verify (m.env get) ex 1 m.cert err now now').1 = .ret n) (hn : n ≠ 0) :
    ∃ st : CertificateStatus, st.isGood now' = true ∧ m.Verified st ∧
      (ex.getCachedPeerStatus m.cert.serial = some st ∨ getStatus (m.env get) m.cert now = .ok st) ∧
      (ossl_verify (m.env get) ex 1 m.cert err now now').2.getCachedPeerStatus m.cert.serial = some st := by
  obtain ⟨-, hst⟩ := ossl_verify_accepts h hn
  obtain ⟨st, hg, ⟨hcached, -, hex⟩ | ⟨-, hs, hex⟩⟩ := hst hmon hen
  · exact ⟨st, hg, hc _ st hcached, .inl hcached, by rw [hex]; exact hcached⟩
  · exact ⟨st, hg, Monitor.verified_of_getStatus hs, .inr hs, by
      rw [hex, CertStatusExData.getCachedPeerStatus_set_same]⟩

/-- With status checking enabled, a monitored certificate whose cached status
is valid and good is accepted on it, without a fetch. -/
theorem accepts_cached {get : String → Except String Value} {ex : CertStatusExData} {err now : ℤ}
    {st : CertificateStatus} (hmon : statusMonitoringRequired m.cert = true)
    (hen : ex.statusCheckEnabled = true) (hst : ex.getCachedPeerStatus m.cert.serial = some st)
    (hg : st.isGood now = true) : (ossl_verify (m.env get) ex 1 m.cert err now now).1 = .ret 1 := by
  simp [ossl_verify, hmon, hen, currentPeerStatus, CertStatusExData.getSerialNumber, hst,
    OCSPStatus.isValid_of_isGood hg, hg]

end MonitorState

open MonitorState

/-- The GOOD value with its token's byte corrupted. -/
def corruptValue : Value := { replayedValue with ocspResponse := some [2] }

/-- The GOOD value delivered when the token is signed, then a minute passing. -/
def goodThenTick : MonitorState :=
  MonitorState.run tokenMonitor ⟨freshExData, 1704067200, false⟩ [.update replayedValue, .tick 60]

/-- **Failed updates and acceptance.**  For a monitored certificate: an update
whose value yields no status leaves the whole state unchanged, so that a
status cached before it, while valid and good, is still accepted; and along
every run from a side car with status checking enabled and a verified cache
(an empty one, say), whenever `ossl_verify(1, ctx)` accepts, the status it
relied on, the one cached under the certificate's serial number or the one it
fetched, is good at the check, was built from a token that passed `parse` as
GOOD, and is the status cached afterwards. -/
theorem monitor_acceptance_spec (m : Monitor) (hmon : statusMonitoringRequired m.cert = true) :
    (∀ (s : MonitorState) (v : Value) (e : Exn),
      PVACertificateStatus.ofValue m.crypto m.allowSelfSignedCa s.clock v = .error e →
        s.step m (.update v) = s ∧
        ∀ (st : CertificateStatus) (get : String → Except String Value) (err : ℤ),
          s.ex.statusCheckEnabled = true → s.ex.getCachedPeerStatus m.cert.serial = some st →
          st.isGood s.clock = true →
          (ossl_verify (m.env get) (s.step m (.update v)).ex 1 m.cert err s.clock s.clock).1 = .ret 1) ∧
    ∀ (s : MonitorState) (steps : List MonitorStep) (get : String → Except String Value) (err n : ℤ),
      s.ex.statusCheckEnabled = true → m.CacheVerified s.ex →
      (ossl_verify (m.env get) (s.run m steps).ex 1 m.cert err (s.run m steps).clock
          (s.run m steps).clock).1 = .ret n → n ≠ 0 →
      ∃ st : CertificateStatus, st.isGood (s.run m steps).clock = true ∧ m.Verified st ∧
        ((s.run m steps).ex.getCachedPeerStatus m.cert.serial = some st ∨
          getStatus (m.env get) m.cert (s.run m steps).clock = .ok st) ∧
        (ossl_verify (m.env get) (s.run m steps).ex 1 m.cert err (s.run m steps).clock
          (s.run m steps).clock).2.getCachedPeerStatus m.cert.serial = some st :=
  ⟨fun _ _ _ h => ⟨step_update_of_error h, fun _ _ _ hen hst hg => by
      rw [step_update_of_error h]; exact accepts_cached hmon hen hst hg⟩,
    fun s steps _ _ _ hen hc h hn =>
      accepts_verified hmon (by rw [run_statusCheckEnabled]; exact hen) (run_cacheVerified steps hc) h hn⟩

/-- The run `goodThenTick` followed by the corrupt update, checked with no
status PV reachable: the acceptance rests on the status the GOOD update
cached. -/
theorem monitor_acceptance_spec_tokenMonitor :
    statusMonitoringRequired tokenMonitor.cert = true ∧
      ∃ st : CertificateStatus,
        st.isGood (MonitorState.run tokenMonitor ⟨freshExData, 1704067200, false⟩
          [.update replayedValue, .tick 60, .update corruptValue]).clock = true ∧
        tokenMonitor.Verified st ∧
        ((MonitorState.run tokenMonitor ⟨freshExData, 1704067200, false⟩
            [.update replayedValue, .tick 60, .update corruptValue]).ex.getCachedPeerStatus
              tokenMonitor.cert.serial = some st ∨
          getStatus (tokenMonitor.env fun _ => .error "Timeout") tokenMonitor.cert
            (MonitorState.run tokenMonitor ⟨freshExData, 1704067200, false⟩
              [.update replayedValue, .tick 60, .update corruptValue]).clock = .ok st) ∧
        (ossl_verify (tokenMonitor.env fun _ => .error "Timeout")
          (MonitorState.run tokenMonitor ⟨freshExData, 1704067200, false⟩
            [.update replayedValue, .tick 60, .update corruptValue]).ex 1 tokenMonitor.cert 0
          (MonitorState.run tokenMonitor ⟨freshExData, 1704067200, false⟩
            [.update replayedValue, .tick 60, .update corruptValue]).clock
          (MonitorState.run tokenMonitor ⟨freshExData, 1704067200, false⟩
            [.update replayedValue, .tick 60, .update corruptValue]).clock).2.getCachedPeerStatus
              tokenMonitor.cert.serial = some st :=
  ⟨rfl, (monitor_acceptance_spec tokenMonitor rfl).2 ⟨freshExData, 1704067200, false⟩
    [.update replayedValue, .tick 60, .update corruptValue] (fun _ => .error "Timeout") 0 1 rfl
    Monitor.cacheVerified_fresh (by decide) (by decide)⟩

/-- **A corrupt update does not revoke acceptance.**  After `goodThenTick` the
corrupt update fails and changes nothing, and `ossl_verify` accepts `tokenCert`
on the status cached before it, with no status PV reachable. -/
theorem ossl_verify_accepts_after_failed_update :
    PVACertificateStatus.ofValue monitorCrypto false goodThenTick.clock corruptValue =
        .error (.ocspParse "Failed to parse OCSP response") ∧
      goodThenTick.step tokenMonitor (.update corruptValue) = goodThenTick ∧
      (ossl_verify (tokenMonitor.env fun _ => .error "Timeout")
        (goodThenTick.step tokenMonitor (.update corruptValue)).ex 1 tokenCert 0
        goodThenTick.clock goodThenTick.clock).1 = .ret 1 := by
  have h : PVACertificateStatus.ofValue monitorCrypto false goodThenTick.clock corruptValue =
      .error (.ocspParse "Failed to parse OCSP response") := rfl
  refine ⟨h, step_update_of_error h, ?_⟩
  rw [step_update_of_error (m := tokenMonitor) (s := goodThenTick) h]
  decide

end Pvxs
