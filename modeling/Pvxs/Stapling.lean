import Pvxs.CertStatus
/-
Server-side OCSP stapling (`serverOCSPCallback`, installed by
`stapleOcspResponse` as the context's status callback).

OpenSSL calls the callback during a handshake whose client asked for a status.
It is meant to hand the server's current token to the `SSL`, keeping a copy in
`cached_ocsp_response` so that the copy is redone only when the token changes.

* `serverOCSPCallback_requested` — the guard on `SSL_get_tlsext_status_type`
  is the wrong way round: when the client requested a status the callback
  returns `SSL_TLSEXT_ERR_ALERT_WARNING`, staples nothing and changes nothing;
* `stapling_run_requested` — so along every run of handshakes and status
  changes, no handshake that requested a status gets one;
* `serverOCSPCallback_stapled` — what the callback does staple is the current
  token, byte for byte;
* `serverOCSPCallback_repeat` — past the guard, the handshake after one that
  copied the token is answered OK with nothing stapled.

Design notes: `memcmp(p, q, n)` over the cached copy `q` reads past its end
when `q` is shorter than `n`; the model counts those bytes as differing.
-/

namespace Pvxs

/-- `TLSEXT_STATUSTYPE_ocsp`: the client requested an OCSP status. -/
def TLSEXT_STATUSTYPE_ocsp : ℤ := 1

/-- `SSL_TLSEXT_ERR_OK`. -/
def SSL_TLSEXT_ERR_OK : ℤ := 0

/-- `SSL_TLSEXT_ERR_ALERT_WARNING`. -/
def SSL_TLSEXT_ERR_ALERT_WARNING : ℤ := 1

/-- `SSL_TLSEXT_ERR_ALERT_FATAL`. -/
def SSL_TLSEXT_ERR_ALERT_FATAL : ℤ := 2

/-- The fields of `server::Server::Pvt` the callback reads and writes. -/
structure StaplingServer where
  currentStatus : Option CertificateStatus
  cachedOcspResponse : Option (List UInt8)
  deriving DecidableEq, Repr

/-- What a call returns to OpenSSL, the response it set on the handshake's
`SSL` with `SSL_set_tlsext_status_ocsp_resp` (if any), and the server after. -/
structure StapleResult where
  ret : ℤ
  stapled : Option (List UInt8)
  server : StaplingServer
  deriving DecidableEq, Repr

/-- `memcmp(p, q, n) != 0`: the first `n` bytes differ. -/
def memcmpDiffers (p q : List UInt8) (n : ℕ) : Bool := p.take n != q.take n

/-- `serverOCSPCallback(ssl, server)` for a handshake whose
`SSL_get_tlsext_status_type` is `statusType`, where
`SSL_set_tlsext_status_ocsp_resp` succeeds iff `setOcspRespOk`. -/
def serverOCSPCallback (statusType : ℤ) (setOcspRespOk : Bool) (server : StaplingServer) :
    StapleResult :=
  if statusType ≠ -1 then ⟨SSL_TLSEXT_ERR_ALERT_WARNING, none, server⟩
  else match server.currentStatus with
    | none => ⟨SSL_TLSEXT_ERR_ALERT_FATAL, none, server⟩
    | some currentStatus =>
      let ocspData := currentStatus.ocspBytes
      let changed := match server.cachedOcspResponse with
        | none => true
        | some cached => memcmpDiffers ocspData cached ocspData.length
      if changed then
        let server' := { server with cachedOcspResponse := some ocspData }
        if setOcspRespOk then ⟨SSL_TLSEXT_ERR_OK, some ocspData, server'⟩
        else ⟨SSL_TLSEXT_ERR_ALERT_FATAL, none, server'⟩
      else ⟨SSL_TLSEXT_ERR_OK, none, server⟩

/-- **A requested status is never stapled.** -/
theorem serverOCSPCallback_requested (setOcspRespOk : Bool) (server : StaplingServer) :
    serverOCSPCallback TLSEXT_STATUSTYPE_ocsp setOcspRespOk server =
      ⟨SSL_TLSEXT_ERR_ALERT_WARNING, none, server⟩ := rfl

/-- What the callback staples is the current status's token. -/
theorem serverOCSPCallback_stapled {statusType : ℤ} {setOcspRespOk : Bool} {server : StaplingServer}
    {b : List UInt8} (h : (serverOCSPCallback statusType setOcspRespOk server).stapled = some b) :
    ∃ st, server.currentStatus = some st ∧ b = st.ocspBytes := by
  unfold serverOCSPCallback at h
  split at h; · cases h
  cases hst : server.currentStatus with
  | none => simp [hst] at h
  | some st =>
    simp only [hst] at h
    refine ⟨st, rfl, ?_⟩
    split at h <;> (try split at h) <;> (cases h <;> rfl)

/-- Past the guard, a call leaves a copy that agrees with the current token. -/
theorem serverOCSPCallback_copy {server : StaplingServer} {st : CertificateStatus}
    (hst : server.currentStatus = some st) (ok : Bool) :
    (serverOCSPCallback (-1) ok server).server.currentStatus = some st ∧
      ∃ c, (serverOCSPCallback (-1) ok server).server.cachedOcspResponse = some c ∧
        memcmpDiffers st.ocspBytes c st.ocspBytes.length = false := by
  have hm : memcmpDiffers st.ocspBytes st.ocspBytes st.ocspBytes.length = false := by
    simp [memcmpDiffers]
  unfold serverOCSPCallback
  simp only [ne_eq, not_true_eq_false, if_false, hst]
  split
  · split <;> exact ⟨rfl, _, rfl, hm⟩
  · rename_i hc
    cases hcache : server.cachedOcspResponse with
    | none => simp [hcache] at hc
    | some c => exact ⟨hst, c, rfl, by simpa [hcache] using hc⟩

/-- Past the guard, once a call has copied the current token, the next
handshake with the same status is answered OK and gets nothing. -/
theorem serverOCSPCallback_repeat {server : StaplingServer} {st : CertificateStatus}
    (hst : server.currentStatus = some st) (ok ok' : Bool) :
    serverOCSPCallback (-1) ok' (serverOCSPCallback (-1) ok server).server =
      ⟨SSL_TLSEXT_ERR_OK, none, (serverOCSPCallback (-1) ok server).server⟩ := by
  obtain ⟨hst', c, hc, heq⟩ := serverOCSPCallback_copy hst ok
  generalize (serverOCSPCallback (-1) ok server).server = s' at hst' hc ⊢
  simp [serverOCSPCallback, hst', hc, heq]

/-- The events of a server's life: a handshake that calls the callback, or a
new current status. -/
inductive StaplingEvent
  | handshake (statusType : ℤ) (setOcspRespOk : Bool)
  | setStatus (status : Option CertificateStatus)

/-- A handshake's status type, and what the callback returned and stapled. -/
structure StapleOutcome where
  statusType : ℤ
  ret : ℤ
  stapled : Option (List UInt8)
  deriving DecidableEq, Repr

/-- The outcomes of the handshakes of a run, and the server at its end. -/
def staplingRun (server : StaplingServer) : List StaplingEvent → List StapleOutcome × StaplingServer
  | [] => ([], server)
  | .handshake t ok :: es =>
    let r := serverOCSPCallback t ok server
    let rest := staplingRun r.server es
    (⟨t, r.ret, r.stapled⟩ :: rest.1, rest.2)
  | .setStatus st :: es => staplingRun { server with currentStatus := st } es

/-- **No handshake that requests a status gets one**, along any run of
handshakes and status changes from any server state. -/
theorem stapling_run_requested (server : StaplingServer) (es : List StaplingEvent) :
    ∀ o ∈ (staplingRun server es).1, o.statusType = TLSEXT_STATUSTYPE_ocsp →
      o.ret = SSL_TLSEXT_ERR_ALERT_WARNING ∧ o.stapled = none := by
  induction es generalizing server with
  | nil => simp [staplingRun]
  | cons e es ih =>
    cases e with
    | handshake t ok =>
      simp only [staplingRun, List.mem_cons, forall_eq_or_imp]
      refine ⟨fun ht => ?_, ih _⟩
      subst ht
      simp [serverOCSPCallback_requested]
    | setStatus st => exact ih _

/-- A GOOD status with a one-byte token, valid for half an hour from
2024-01-01T00:00:00Z. -/
def goodStatus : CertificateStatus :=
  { ocspBytes := [0x30], ocspStatus := .good,
    statusDate := ⟨1704067200, "Mon Jan 01 00:00:00 2024 UTC"⟩,
    statusValidUntilDate := ⟨1704069000, "Mon Jan 01 00:30:00 2024 UTC"⟩,
    revocationDate := ⟨0, ""⟩, status := .ofCertstatus .valid }

/-- A server whose current status is `goodStatus`, nothing cached: two
handshakes requesting a status, with the status set again between them. -/
theorem stapling_run_requested_first :
    ((⟨TLSEXT_STATUSTYPE_ocsp, SSL_TLSEXT_ERR_ALERT_WARNING, none⟩ : StapleOutcome) ∈
        (staplingRun ⟨some goodStatus, none⟩
          [.handshake TLSEXT_STATUSTYPE_ocsp true, .setStatus (some goodStatus),
            .handshake TLSEXT_STATUSTYPE_ocsp true]).1 ∧
      (⟨TLSEXT_STATUSTYPE_ocsp, SSL_TLSEXT_ERR_ALERT_WARNING, none⟩ : StapleOutcome).statusType =
        TLSEXT_STATUSTYPE_ocsp) ∧
    (⟨TLSEXT_STATUSTYPE_ocsp, SSL_TLSEXT_ERR_ALERT_WARNING, none⟩ : StapleOutcome).ret =
        SSL_TLSEXT_ERR_ALERT_WARNING ∧
      (⟨TLSEXT_STATUSTYPE_ocsp, SSL_TLSEXT_ERR_ALERT_WARNING, none⟩ : StapleOutcome).stapled = none :=
  ⟨⟨by decide, rfl⟩,
    stapling_run_requested ⟨some goodStatus, none⟩
      [.handshake TLSEXT_STATUSTYPE_ocsp true, .setStatus (some goodStatus),
        .handshake TLSEXT_STATUSTYPE_ocsp true] _ (by decide) rfl⟩

end Pvxs
