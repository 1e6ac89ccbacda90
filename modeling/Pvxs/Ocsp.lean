import Pvxs.CertStatus
/-
OCSP status tokens and their parsing (`certstatusmanager.cpp`, `certstatus.h`).

A token is the DER of an `OCSP_RESPONSE`.  `CertStatusManager::parse` decodes
it, checks the response status, verifies the signer (`verifyOCSPResponse`),
takes the first single response, and returns its serial, state and dates.
`CertificateStatus(const Value&)` builds a status from a status PV's value:
the PVA state from `status.value.index`, the rest from the parsed token, then
the consistency checks.

* `parse_clock` — `parse` gives the same result at every clock value: the
  verdict of `OCSP_check_validity` is computed and dropped;
* `parse_ok_iff` — what a successful parse establishes: a successful response
  whose signer verified and whose first single response is the one returned;
* `asn1TimeToTimeT_eq_instant_add` — a time `ASN1_TIME_to_tm` accepts, from
  1950 on, converts to its instant, except that the years 1950–1968 other
  than 1953, 1957, 1961 and 1965 come out one day late;
* `StatusDate.ofAsn1_toAsn1_Time` — a date the code builds from a time from
  the epoch on, written with `toAsn1_Time` and read back with
  `StatusDate(const ASN1_TIME*)`, is the same date up to the end of year 9999;
  after it `ASN1_TIME_set` writes a year of five digits or more, which
  `ASN1_TIME_to_tm` rejects, and the read throws;
* `CertificateStatus.ofValue_names` — a built status's OCSP state is always
  named inside `OCSP_CERT_STATES`, its PVA state inside `CERT_STATES` only for
  an index 0–5, which nothing checks (`ofValue_reads_past_certStates`).

Design notes: DER decoding, certificate trust, the trust store and the
signature check are OpenSSL's; they are the fields of `Crypto`, so every
result here holds for every behaviour of them.  An `ASN1_TIME` is the
calendar fields it carries; `X509_cmp_time` compares the instants they denote
(`timegm`).
-/

namespace Pvxs

/-- An X.509 certificate, by the parts the status code reads. -/
structure X509 where
  serial : ℕ
  issuer : String
  /-- the data of the `NID_PvaCertStatusURI` extension, when present -/
  statusPvExt : Option (List UInt8)
  deriving DecidableEq, Repr

/-- An `ASN1_TIME`, by the calendar fields it carries (month 1–12). -/
structure Asn1Time where
  year : ℤ
  month : ℤ
  day : ℤ
  hour : ℤ
  minute : ℤ
  second : ℤ
  deriving DecidableEq, Repr

/-- OpenSSL's `ASN1_TIME_to_tm`: the `tm` of a well-formed time, `none` (it
returns 0) otherwise.  The time is read from its text, a UTCTime or a
GeneralizedTime with a four-digit year, so a year outside 0–9999, which
`ASN1_TIME_set` prints with more characters, does not parse. -/
def ASN1_TIME_to_tm (a : Asn1Time) : Option Tm :=
  if 0 ≤ a.year ∧ a.year ≤ 9999 ∧
      1 ≤ a.month ∧ a.month ≤ 12 ∧ 1 ≤ a.day ∧ a.day ≤ daysInMonth a.year a.month ∧
      0 ≤ a.hour ∧ a.hour < 24 ∧ 0 ≤ a.minute ∧ a.minute < 60 ∧ 0 ≤ a.second ∧ a.second < 60 then
    some { tmSec := a.second, tmMin := a.minute, tmHour := a.hour, tmMday := a.day,
           tmMon := a.month - 1, tmYear := a.year - 1900 }
  else none

/-- The instant an `ASN1_TIME` denotes, as `X509_cmp_time` compares it. -/
def Asn1Time.instant (a : Asn1Time) : ℤ :=
  timegm { tmSec := a.second, tmMin := a.minute, tmHour := a.hour, tmMday := a.day,
           tmMon := a.month - 1, tmYear := a.year - 1900 }

/-- `OCSP_CERTID`: which certificate a single response speaks of, by its
issuer (the name and key hashes) and its serial number. -/
structure CertId where
  issuer : String
  serial : ℕ
  deriving DecidableEq, Repr

/-- `OCSP_SINGLERESP`. -/
structure SingleResp where
  certId : CertId
  status : Ocspcertstatus
  thisUpdate : Asn1Time
  nextUpdate : Option Asn1Time
  revocationTime : Option Asn1Time
  deriving DecidableEq, Repr

/-- `OCSP_BASICRESP`: the signer `OCSP_resp_get0_signer` finds, the certificates
carried, and the single responses. -/
structure BasicResp where
  signer : Option X509
  certs : List X509
  responses : List SingleResp
  deriving DecidableEq, Repr

/-- `OCSP_RESPONSE`. -/
structure OCSPResponse where
  responseStatus : ℕ
  basic : Option BasicResp
  deriving DecidableEq, Repr

/-- `OCSP_RESPONSE_STATUS_SUCCESSFUL`. -/
def OCSP_RESPONSE_STATUS_SUCCESSFUL : ℕ := 0

/-- The OpenSSL calls of `verifyOCSPResponse` and `getOCSPResponse` that can fail
on their own, each with its message. -/
inductive OsslStep
  | bioNew | storeNew | setDefaultPaths | loadLocations | storeCtxNew | storeCtxInit
  | storeAddCert
  deriving DecidableEq, Repr

/-- OpenSSL as the status code uses it. -/
structure Crypto where
  /-- `d2i_OCSP_RESPONSE_bio`: the response encoded in the bytes, if any -/
  d2i : List UInt8 → Option OCSPResponse
  /-- `X509_check_issued(c, c) == X509_V_OK`: the certificate issued itself -/
  selfIssued : X509 → Bool
  /-- `ossl::ensureTrusted`: `none` when it returns, its message when it throws -/
  ensureTrusted : X509 → List X509 → Option String
  /-- whether each failing step succeeds -/
  stepOk : OsslStep → Bool
  /-- `OCSP_basic_verify(...) > 0`: the signature verifies up to a trusted root -/
  basicVerify : BasicResp → Bool

/-- `OCSP_check_validity(thisupd, nextupd, nsec, maxsec)` at time `now`:
`thisUpdate` not after `now + nsec` and, when `maxsec ≥ 0`, later than
`now - maxsec`; `nextUpdate` later than `now - nsec` and not before `thisUpdate`.
`X509_cmp_time` counts an equal time as earlier. -/
def OCSP_check_validity (thisupd : Asn1Time) (nextupd : Option Asn1Time) (nsec maxsec now : ℤ) :
    Bool :=
  decide (thisupd.instant ≤ now + nsec) && (decide (maxsec < 0) || decide (now - maxsec < thisupd.instant)) &&
    match nextupd with
    | none => true
    | some n => decide (now - nsec < n.instant) && decide (thisupd.instant ≤ n.instant)

/-- `StatusDate::asn1TimeToTimeT`: 0 for a null time. -/
def asn1TimeToTimeT (time : Option Asn1Time) : Except Exn ℤ :=
  match time with
  | none => .ok 0
  | some a => match ASN1_TIME_to_tm a with
    | some tm => .ok (tmToTimeTUTC tm)
    | none => .error (.runtime "Failed to convert ASN1_TIME to tm structure")

/-- **`asn1TimeToTimeT` against the instant** of a time `ASN1_TIME_to_tm`
accepts, from 1950 on: equal, except in the years 1950–1968 other than 1953,
1957, 1961 and 1965, where the code's time is one day (86400 s) late. -/
theorem asn1TimeToTimeT_eq_instant_add (a : Asn1Time) (h : (ASN1_TIME_to_tm a).isSome) (hy : 1950 ≤ a.year) :
    asn1TimeToTimeT (some a) =
      .ok (a.instant + if a.year < 1969 ∧ (1969 - a.year) % 4 ≠ 0 then 86400 else 0) := by
  unfold ASN1_TIME_to_tm at h
  split at h
  · have := tmToTimeTUTC_eq_timegm_add
      { tmSec := a.second, tmMin := a.minute, tmHour := a.hour, tmMday := a.day,
        tmMon := a.month - 1, tmYear := a.year - 1900 } (by dsimp only; omega)
    simp only [add_sub_cancel] at this
    rw [asn1TimeToTimeT, ASN1_TIME_to_tm, if_pos ‹_›]
    exact congrArg Except.ok this
  · cases h

/-- 1968-01-01T00:00:00Z, `680101000000Z`: the code gives -63072000, the
calendar -63158400. -/
theorem asn1TimeToTimeT_jan1968 :
    (ASN1_TIME_to_tm ⟨1968, 1, 1, 0, 0, 0⟩).isSome ∧ 1950 ≤ (1968 : ℤ) ∧
      asn1TimeToTimeT (some ⟨1968, 1, 1, 0, 0, 0⟩) =
        .ok (Asn1Time.instant ⟨1968, 1, 1, 0, 0, 0⟩ +
          if (1968 : ℤ) < 1969 ∧ (1969 - 1968 : ℤ) % 4 ≠ 0 then 86400 else 0) ∧
      asn1TimeToTimeT (some ⟨1968, 1, 1, 0, 0, 0⟩) = .ok (-63072000) ∧
      Asn1Time.instant ⟨1968, 1, 1, 0, 0, 0⟩ = -63158400 :=
  ⟨rfl, by decide, asn1TimeToTimeT_eq_instant_add ⟨1968, 1, 1, 0, 0, 0⟩ rfl (by decide), rfl, rfl⟩

/-- `StatusDate(const ASN1_TIME*)`. -/
def StatusDate.ofAsn1 (time : Option Asn1Time) : Except Exn StatusDate := do
  let t ← asn1TimeToTimeT time
  StatusDate.ofTime t

/-! ### From a date to an `ASN1_TIME` and back -/

/-- OpenSSL's `ASN1_TIME_set(s, t)`: the UTC time `t` as `OPENSSL_gmtime`
breaks it down, written as a UTCTime for the years 1950–2049 and as a
GeneralizedTime otherwise, its year printed with every digit (`%04d`); `none`
(it returns NULL and leaves `s` as it was) when `gmtime_r` fails, for a
`tm_year` outside `int`. -/
def ASN1_TIME_set (t : ℤ) : Option Asn1Time :=
  let tm := gmtime t
  if -2147483648 ≤ tm.tmYear ∧ tm.tmYear ≤ 2147483647 then
    some ⟨1900 + tm.tmYear, tm.tmMon + 1, tm.tmMday, tm.tmHour, tm.tmMin, tm.tmSec⟩
  else none

/-- `ASN1_TIME_new()`: a time with no content, which `ASN1_TIME_to_tm`
rejects; month 0 stands for the empty string. -/
def ASN1_TIME_new : Asn1Time := ⟨0, 0, 0, 0, 0, 0⟩

/-- `StatusDate::toAsn1_Time`: the result of `ASN1_TIME_set` is not checked. -/
def StatusDate.toAsn1_Time (d : StatusDate) : Asn1Time := (ASN1_TIME_set d.t).getD ASN1_TIME_new

/-- Reading back a time `toAsn1_Time` wrote: the same time up to the end of
year 9999.  After it the year has five digits or more: `ASN1_TIME_set` writes
it, or fails past `int` and leaves the empty time, and either way
`ASN1_TIME_to_tm` rejects what it reads, so the read throws. -/
theorem asn1TimeToTimeT_toAsn1_Time (d : StatusDate) (h0 : 0 ≤ d.t) :
    asn1TimeToTimeT (some d.toAsn1_Time) =
      if d.t ≤ 253402300799 then .ok d.t else .error (.runtime "Failed to convert ASN1_TIME to tm structure") := by
  split_ifs with h1
  · have hn := gmtime_normal d.t h0 h1
    have hday := gmtime_mday_le d.t h0
    have hset : ASN1_TIME_set d.t = some ⟨1900 + (gmtime d.t).tmYear, (gmtime d.t).tmMon + 1,
        (gmtime d.t).tmMday, (gmtime d.t).tmHour, (gmtime d.t).tmMin, (gmtime d.t).tmSec⟩ := by
      rw [ASN1_TIME_set, if_pos (by have := hn.year; omega)]
    have htm : ASN1_TIME_to_tm ⟨1900 + (gmtime d.t).tmYear, (gmtime d.t).tmMon + 1, (gmtime d.t).tmMday,
        (gmtime d.t).tmHour, (gmtime d.t).tmMin, (gmtime d.t).tmSec⟩ = some { gmtime d.t with tmWday := 0, tmYday := 0 } := by
      rw [ASN1_TIME_to_tm, if_pos (by
        have := hn.year; have := hn.mon; have := hn.mday; have := hn.hour; have := hn.min; have := hn.sec
        simp only at hday ⊢; omega)]
      simp
    rw [StatusDate.toAsn1_Time, hset, Option.getD_some, asn1TimeToTimeT, htm]
    exact congrArg Except.ok (tmToTimeTUTC_gmtime d.t h0)
  · have hy := gmtime_year_ge d.t (by omega)
    unfold StatusDate.toAsn1_Time ASN1_TIME_set
    dsimp only
    split_ifs
    · rw [Option.getD_some, asn1TimeToTimeT, ASN1_TIME_to_tm, if_neg (by dsimp only; omega)]
    · rfl

/-- **A status date through an `ASN1_TIME` and back.**  A date built from a
time from the epoch on comes back unchanged up to the end of year 9999, and
every later one makes `StatusDate(const ASN1_TIME*)` throw. -/
theorem StatusDate.ofAsn1_toAsn1_Time {t : ℤ} {d : StatusDate} (h0 : 0 ≤ t) (hd : StatusDate.ofTime t = .ok d) :
    StatusDate.ofAsn1 (some d.toAsn1_Time) =
      if t ≤ 253402300799 then .ok d else .error (.runtime "Failed to convert ASN1_TIME to tm structure") := by
  have ht : d.t = t := by
    obtain ⟨s, -, hs⟩ := bind_eq_ok.mp hd
    cases hs
    rfl
  rw [StatusDate.ofAsn1, asn1TimeToTimeT_toAsn1_Time d (ht ▸ h0), ht]
  split_ifs
  · exact hd
  · rfl

/-- The status date of 2024-05-01T12:00:00Z. -/
def may2024 : StatusDate := ⟨1714564800, String.mk (strftime (gmtime 1714564800) certTimeFormat.toList)⟩

/-- 2024-05-01T12:00:00Z comes back unchanged. -/
theorem StatusDate.ofAsn1_toAsn1_Time_may2024 :
    (0 ≤ (1714564800 : ℤ) ∧ StatusDate.ofTime 1714564800 = .ok may2024) ∧
      StatusDate.ofAsn1 (some may2024.toAsn1_Time) =
        if (1714564800 : ℤ) ≤ 253402300799 then .ok may2024
        else .error (.runtime "Failed to convert ASN1_TIME to tm structure") :=
  have hd : StatusDate.ofTime 1714564800 = .ok may2024 := by
    rw [StatusDate.ofTime, StatusDate.toString_of_normal _ (gmtime_normal _ (by norm_num) (by norm_num))]
    rfl
  ⟨⟨by norm_num, hd⟩, StatusDate.ofAsn1_toAsn1_Time (by norm_num) hd⟩

/-- Modelled from the spec: `CertStatusFactory::ASN1ToUint64` (not in src), the
serial number as a 64-bit unsigned integer. -/
def ASN1ToUint64 (serial : ℕ) : ℕ := serial % 2 ^ 64

/-- `ParsedOCSPStatus`. -/
structure ParsedOCSPStatus where
  serial : ℕ
  ocspStatus : Ocspcertstatus
  statusDate : StatusDate
  statusValidUntilDate : StatusDate
  revocationDate : StatusDate
  deriving DecidableEq, Repr

namespace CertStatusManager

/-- `CertStatusManager::getOCSPResponse`. -/
def getOCSPResponse (c : Crypto) (ocspBytes : List UInt8) : Except Exn OCSPResponse :=
  if !c.stepOk .bioNew then .error (.ocspParse "Failed to create BIO for OCSP response")
  else match c.d2i ocspBytes with
    | some r => .ok r
    | none => .error (.ocspParse "Failed to parse OCSP response")

/-- A failing OpenSSL step throws its message. -/
def ensureStep (c : Crypto) (step : OsslStep) (msg : String) : Except Exn Unit :=
  if c.stepOk step then .ok () else .error (.ocspParse msg)

/-- `CertStatusManager::verifyOCSPResponse`: the signer is trusted (or, when
allowed, self-signed), the store is set up, and `OCSP_basic_verify` passes. -/
def verifyOCSPResponse (c : Crypto) (basicResponse : BasicResp) (allowSelfSignedCa : Bool)
    (customCaDir : String) : Except Exn Unit := do
  let some caCert := basicResponse.signer
    | throw (.ocspParse "Failed to get signer certificate from OCSP response")
  if !allowSelfSignedCa || !c.selfIssued caCert then
    if let some e := c.ensureTrusted caCert basicResponse.certs then
      throw (.ocspParse ("verifying OCSP response: " ++ e))
  ensureStep c .storeNew "Failed to create X509_STORE to verify OCSP response"
  ensureStep c .setDefaultPaths
    "Failed to load system default CA certificates to verify OCSP response"
  if !customCaDir.isEmpty then
    ensureStep c .loadLocations ("Failed to load CA certificates from custom directory: " ++ customCaDir)
  ensureStep c .storeCtxNew "Failed to create X509_STORE_CTX to verify OCSP response"
  ensureStep c .storeCtxInit "Failed to initialize X509_STORE_CTX to verify CA certificate"
  ensureStep c .storeAddCert "Failed to add issuer certificate to X509_STORE to verify OCSP response"
  if !c.basicVerify basicResponse then throw (.ocspParse "OCSP_basic_verify failed")

/-- The basic response of a successful `OCSP_RESPONSE`. -/
def basicOf (ocspResponse : OCSPResponse) : Except Exn BasicResp :=
  if ocspResponse.responseStatus ≠ OCSP_RESPONSE_STATUS_SUCCESSFUL then
    .error (.ocspParse "OCSP response status not successful")
  else match ocspResponse.basic with
    | some basicResponse => .ok basicResponse
    | none => .error (.ocspParse "Failed to get basic OCSP response")

/-- `OCSP_resp_get0(basic_response, 0)`: the first single response. -/
def singleOf (basicResponse : BasicResp) : Except Exn SingleResp :=
  match basicResponse.responses.head? with
  | some singleResponse => .ok singleResponse
  | none => .error (.ocspParse "No entries found in OCSP response")

/-- A REVOKED single response carries its revocation time. -/
def checkRevocationTime (singleResponse : SingleResp) : Except Exn Unit :=
  if singleResponse.status = .revoked ∧ singleResponse.revocationTime = none then
    .error (.ocspParse "Revocation time not set when status is REVOKED")
  else .ok ()

/-- The `ParsedOCSPStatus` of a single response. -/
def parsedOf (singleResponse : SingleResp) : Except Exn ParsedOCSPStatus := do
  let statusDate ← StatusDate.ofAsn1 (some singleResponse.thisUpdate)
  let statusValidUntilDate ← StatusDate.ofAsn1 singleResponse.nextUpdate
  let revocationDate ← StatusDate.ofAsn1 singleResponse.revocationTime
  return { serial := ASN1ToUint64 singleResponse.certId.serial, ocspStatus := singleResponse.status,
           statusDate, statusValidUntilDate, revocationDate }

/-- `CertStatusManager::parse`, with the clock `now` that `OCSP_check_validity`
reads. -/
def parse (c : Crypto) (ocspBytes : List UInt8) (allowSelfSignedCa : Bool) (customCaDir : String)
    (now : ℤ) : Except Exn ParsedOCSPStatus := do
  let ocspResponse ← getOCSPResponse c ocspBytes
  let basicResponse ← basicOf ocspResponse
  verifyOCSPResponse c basicResponse allowSelfSignedCa customCaDir
  let singleResponse ← singleOf basicResponse
  -- Check status validity: less than 5 seconds old
  let _ := OCSP_check_validity singleResponse.thisUpdate singleResponse.nextUpdate 0 5 now
  checkRevocationTime singleResponse
  parsedOf singleResponse

/-! ### What `parse` checks -/

theorem getOCSPResponse_eq_ok {c : Crypto} {b : List UInt8} {r : OCSPResponse}
    (h : getOCSPResponse c b = .ok r) : c.d2i b = some r := by
  unfold getOCSPResponse at h
  split at h; · cases h
  split at h <;> cases h; assumption

theorem basicOf_eq_ok {r : OCSPResponse} {b : BasicResp} (h : basicOf r = .ok b) :
    r.responseStatus = OCSP_RESPONSE_STATUS_SUCCESSFUL ∧ r.basic = some b := by
  unfold basicOf at h
  split at h; · cases h
  split at h <;> cases h
  exact ⟨not_ne_iff.mp ‹_›, ‹_›⟩

theorem singleOf_eq_ok {b : BasicResp} {s : SingleResp} (h : singleOf b = .ok s) :
    b.responses.head? = some s := by
  unfold singleOf at h; split at h <;> cases h; assumption

theorem parsedOf_eq_ok {s : SingleResp} {p : ParsedOCSPStatus} (h : parsedOf s = .ok p) :
    p.serial = ASN1ToUint64 s.certId.serial ∧ p.ocspStatus = s.status ∧
      StatusDate.ofAsn1 s.nextUpdate = .ok p.statusValidUntilDate := by
  simp only [parsedOf, bind_eq_ok, pure, Except.pure] at h
  obtain ⟨_, _, vu, hvu, _, _, h⟩ := h
  cases h
  exact ⟨rfl, rfl, hvu⟩

/-- What a successful `parse` establishes: the bytes decode to a successful
response whose signer verified, and the result is read off its first single
response. -/
theorem parse_eq_ok {c : Crypto} {b : List UInt8} {a : Bool} {d : String} {now : ℤ} {p : ParsedOCSPStatus}
    (h : parse c b a d now = .ok p) :
    ∃ resp basic single, c.d2i b = some resp ∧ resp.responseStatus = OCSP_RESPONSE_STATUS_SUCCESSFUL ∧
      resp.basic = some basic ∧ verifyOCSPResponse c basic a d = .ok () ∧
      basic.responses.head? = some single ∧ p.serial = ASN1ToUint64 single.certId.serial ∧
      p.ocspStatus = single.status ∧ StatusDate.ofAsn1 single.nextUpdate = .ok p.statusValidUntilDate := by
  simp only [parse, bind_eq_ok] at h
  obtain ⟨resp, hr, basic, hb, _, hv, single, hs, _, -, hp⟩ := h
  exact ⟨resp, basic, single, getOCSPResponse_eq_ok hr, (basicOf_eq_ok hb).1, (basicOf_eq_ok hb).2,
    hv, singleOf_eq_ok hs, parsedOf_eq_ok hp⟩

/-- **`parse` does not depend on the clock**: the verdict of
`OCSP_check_validity` is computed and dropped. -/
theorem parse_clock (c : Crypto) (ocspBytes : List UInt8) (allowSelfSignedCa : Bool)
    (customCaDir : String) (now now' : ℤ) :
    parse c ocspBytes allowSelfSignedCa customCaDir now =
      parse c ocspBytes allowSelfSignedCa customCaDir now' := rfl

/-- `thisUpdate` of a token the CMS signs at 2024-01-01T00:00:00Z. -/
def cmsThisUpdate : Asn1Time := ⟨2024, 1, 1, 0, 0, 0⟩

/-- Its `nextUpdate`, 30 minutes later (the default `cert_status_validity_mins`). -/
def cmsNextUpdate : Asn1Time := ⟨2024, 1, 1, 0, 30, 0⟩

/-- The CMS's signing certificate. -/
def cmsSigner : X509 := ⟨1, "CN=EPICS Root CA", none⟩

/-- The CMS's GOOD token for serial 42. -/
def cmsResponse : OCSPResponse :=
  ⟨0, some ⟨some cmsSigner, [cmsSigner],
    [⟨⟨"CN=EPICS Root CA", 42⟩, .good, cmsThisUpdate, some cmsNextUpdate, none⟩]⟩⟩

/-- An OpenSSL under which the CMS's token decodes and verifies. -/
def cmsCrypto : Crypto :=
  ⟨fun _ => some cmsResponse, fun _ => true, fun _ _ => none, fun _ => true, fun _ => true⟩

/-- The token signed at `T = 1704067200` with `nextUpdate = T + 1800` is parsed
without error at `T + 1806`, although `OCSP_check_validity` rejects it then. -/
theorem parse_accepts_expired_token :
    cmsThisUpdate.instant = 1704067200 ∧ cmsNextUpdate.instant = 1704067200 + 1800 ∧
      OCSP_check_validity cmsThisUpdate (some cmsNextUpdate) 0 5 (1704067200 + 1800 + 6) = false ∧
      (parse cmsCrypto [0] false "" (1704067200 + 1800 + 6)).toBool = true := by
  decide

end CertStatusManager

/-! ### Statuses built from a status PV's value -/

/-- Modelled from the spec: `OCSPStatus::init` (declared in `certstatus.h`, its
body is not in src).  Empty bytes leave the UNKNOWN status the PV publishes
when it has no token; otherwise the token is decoded and verified
(`decode_and_verify`) and its state and dates are taken. -/
def OCSPStatus.init (c : Crypto) (allowSelfSignedCa : Bool) (now : ℤ) (ocspBytes : List UInt8) :
    Except Exn OCSPStatus :=
  if ocspBytes = [] then
    .ok { ocspBytes, ocspStatus := .unknown, statusDate := ⟨0, ""⟩,
          statusValidUntilDate := ⟨0, ""⟩, revocationDate := ⟨0, ""⟩ }
  else do
    let p ← CertStatusManager.parse c ocspBytes allowSelfSignedCa "" now
    return { ocspBytes, ocspStatus := p.ocspStatus, statusDate := p.statusDate,
             statusValidUntilDate := p.statusValidUntilDate, revocationDate := p.revocationDate }

/-- `Value::as<T>()` on a field: its value, or the `NoField` error. -/
def Value.field {α : Type} (f : Option α) (name : String) : Except Exn α :=
  match f with
  | some a => .ok a
  | none => .error (.runtime ("NoField " ++ name))

/-- The check `!selfConsistent() || !dateConsistent(...)` of
`CertificateStatus(const Value&)`, against the dates published as text. -/
def CertificateStatus.checkConsistent (st : CertificateStatus) (v : Value) : Except Exn Unit := do
  if !st.selfConsistent then
    throw (.ocspParse "Certificate status does not match certified OCSP status")
  let statusDateValue ← StatusDate.ofString (← Value.field v.ocspStatusDate "ocsp_status_date")
  let validUntilValue ← StatusDate.ofString (← Value.field v.ocspCertifiedUntil "ocsp_certified_until")
  let revocationValue ← StatusDate.ofString (← Value.field v.ocspRevocationDate "ocsp_revocation_date")
  if !st.dateConsistent statusDateValue validUntilValue revocationValue then
    throw (.ocspParse "Certificate status does not match certified OCSP status")

/-- `CertificateStatus(const Value&)`: the PVA state is `status.value.index`
(an `int32`, kept as the `uint32_t` the code stores) and the rest comes from the
token in `ocsp_response`. -/
def CertificateStatus.ofValue (c : Crypto) (allowSelfSignedCa : Bool) (now : ℤ) (v : Value) :
    Except Exn CertificateStatus := do
  let index ← Value.field v.statusIndex "status.value.index"
  let ocspBytes ← Value.field v.ocspResponse "ocsp_response"
  let o ← OCSPStatus.init c allowSelfSignedCa now ocspBytes
  let st : CertificateStatus := { o with status := ⟨(index % 2 ^ 32).toNat⟩ }
  if ocspBytes = [] then pure st
  else do
    st.checkConsistent v
    pure st

/-- Modelled from the spec: `PVACertificateStatus(const Value&, bool)`
(`certstatusmanager.h`, not in src), the status of `CertificateStatus(const
Value&)` keeping the token bytes for stapling. -/
def PVACertificateStatus.ofValue (c : Crypto) (allowSelfSignedCa : Bool) (now : ℤ) (v : Value) :
    Except Exn CertificateStatus :=
  CertificateStatus.ofValue c allowSelfSignedCa now v

theorem Value.field_eq_ok {α : Type} {f : Option α} {name : String} {a : α}
    (h : Value.field f name = .ok a) : f = some a := by
  unfold Value.field at h; split at h <;> cases h; rfl

theorem OCSPStatus.init_eq_ok {c : Crypto} {a : Bool} {now : ℤ} {b : List UInt8} {o : OCSPStatus}
    (h : OCSPStatus.init c a now b = .ok o) :
    o.ocspBytes = b ∧ (b = [] → o.ocspStatus = .unknown) ∧
      (b ≠ [] → ∃ p, CertStatusManager.parse c b a "" now = .ok p ∧ o.ocspStatus = p.ocspStatus ∧
        o.statusValidUntilDate = p.statusValidUntilDate) := by
  unfold OCSPStatus.init at h
  split at h
  · cases h; exact ⟨rfl, fun _ => rfl, fun hb => absurd ‹b = []› hb⟩
  · obtain ⟨p, hp, h⟩ := bind_eq_ok.mp h
    cases h
    exact ⟨rfl, fun hb => absurd hb ‹¬b = []›, fun _ => ⟨p, hp, rfl, rfl⟩⟩

/-- **A GOOD status read from a PV comes from a verified token**: if
`CertificateStatus(const Value&)` built a status in state GOOD, the value
carried a token and that token passed `parse` (decoded, signer trusted,
signature verified) with state GOOD and the same validity. -/
theorem CertificateStatus.ofValue_good {c : Crypto} {a : Bool} {now : ℤ} {v : Value}
    {st : CertificateStatus} (h : CertificateStatus.ofValue c a now v = .ok st)
    (hgood : st.ocspStatus = .good) :
    v.ocspResponse = some st.ocspBytes ∧ ∃ p, CertStatusManager.parse c st.ocspBytes a "" now = .ok p ∧
      p.ocspStatus = .good ∧ p.statusValidUntilDate = st.statusValidUntilDate := by
  simp only [ofValue, bind_eq_ok] at h
  obtain ⟨_, -, b, hb, o, ho, h⟩ := h
  obtain ⟨hbytes, hempty, hparsed⟩ := OCSPStatus.init_eq_ok ho
  have hst : st.toOCSPStatus = o := by
    split at h
    · cases h; rfl
    · obtain ⟨_, -, h⟩ := bind_eq_ok.mp h; cases h; rfl
  subst hst
  have hne : b ≠ [] := fun he => by simp [hempty he] at hgood
  obtain ⟨p, hp, hs, hv⟩ := hparsed hne
  exact ⟨hbytes ▸ Value.field_eq_ok hb, p, hbytes ▸ hp, hs ▸ hgood, hv.symm⟩

/-- The state names of a built status: the OCSP state's is always inside
`OCSP_CERT_STATES`, the PVA state's inside `CERT_STATES` exactly when the index
sent in `status.value.index` is 0–5 as a 32-bit value.  Nothing on the way
checks the index. -/
theorem CertificateStatus.ofValue_names {c : Crypto} {a : Bool} {now : ℤ} {v : Value}
    {st : CertificateStatus} (h : CertificateStatus.ofValue c a now v = .ok st) :
    st.ocspStatus.name.isSome ∧ (st.status.name.isSome ↔ ∃ k, v.statusIndex = some k ∧ k % 2 ^ 32 < 6) := by
  simp only [ofValue, bind_eq_ok] at h
  obtain ⟨k, hk, b, -, o, -, h⟩ := h
  have hst : st.status.i = (k % 2 ^ 32).toNat := by
    split at h
    · cases h; rfl
    · obtain ⟨_, -, h⟩ := bind_eq_ok.mp h; cases h; rfl
  refine ⟨Ocspcertstatus.name_isSome _, ?_⟩
  rw [PVACertStatus.name_isSome_iff, hst, Value.field_eq_ok hk]
  constructor
  · intro hlt; exact ⟨k, rfl, by omega⟩
  · rintro ⟨k', hk', hlt⟩; cases hk'; omega

/-- A status PV value whose state index is 6, one past the end of
`CERT_STATES`, with an empty token. -/
def outOfRangeIndexValue : Value := ⟨some 6, none, none, none, some []⟩

/-- `CertificateStatus(const Value&)` returns without throwing on
`outOfRangeIndexValue`, having built the PVA state 6, whose name is read past
the end of `CERT_STATES`. -/
theorem ofValue_reads_past_certStates (c : Crypto) (allowSelfSignedCa : Bool) (now : ℤ) :
    (fun st : CertificateStatus => (st.status.i, st.status.name)) <$>
        CertificateStatus.ofValue c allowSelfSignedCa now outOfRangeIndexValue = .ok (6, none) :=
  rfl

end Pvxs
