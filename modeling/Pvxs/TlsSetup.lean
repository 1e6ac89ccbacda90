import Pvxs.PeerStatus
/-
The TLS context a peer builds from its configuration (`ossl_setup_common`,
`SSLContext::for_client`, `SSLContext::for_server`).

`ossl_setup_common` creates the `SSL_CTX` with its `CertStatusExData` side car,
loads the key and certificate from the PKCS#12 keychain (one file, or a key
file and a certificate file), checks the certificate's usage, puts the
keychain's root CAs in the trust store and every CA in the chain, checks the
key and builds the chain, and last installs `ossl_verify` as the verify
callback.

* `extractCAs_eq` — `extractCAs` in closed form: it fails exactly on a non-CA
  after the first place, and otherwise trusts the self-signed CAs and chains
  them all;
* `ossl_setup_common_eq_ok` — a context is returned without `ossl_verify`
  installed only to a client with nothing loaded: TLS disabled, or a keychain
  file it could not open; a server always gets the callback
  (`for_server_verify`);
* `for_client_unreadable_keychain` — so a client whose keychain cannot be
  opened gets a context in OpenSSL's default `SSL_VERIFY_NONE`, while one
  with no keychain configured verifies servers with `ossl_verify`;
* `ossl_setup_common_keychain` — a context with a certificate trusts exactly
  the self-signed CAs of its keychain, holds an end-entity certificate for its
  role, and marks it valid only with status checking disabled;
* `for_server_first_verify` — the first check of a monitored client
  certificate by a server context fetches its status, and accepts only a good
  one.

A key `SSL_CTX_use_PrivateKey` refuses is reported with the message of a
refused certificate (`installKeychain_use_error`).

Design notes: OpenSSL is the structure `Ossl`: which files it reads as
PKCS#12, what `PKCS12_parse` finds, the flags and usages it caches per
certificate, and the context calls that can fail on their inputs (allocation
failures are not modelled).  `EXFLAG_SS` implies `EXFLAG_SI`, as OpenSSL sets
the flags, and `Ossl` carries that as a field.  `impl::ConfigCommon` is given
by the fields the setup reads; `isTlsConfigured()` is not in src and is one of
them.
-/

namespace Pvxs

/-- `EXFLAG_CA`. -/
def EXFLAG_CA : UInt32 := 0x10

/-- `EXFLAG_SI`: self-issued. -/
def EXFLAG_SI : UInt32 := 0x20

/-- `EXFLAG_SS`: self-signed. -/
def EXFLAG_SS : UInt32 := 0x2000

/-- `XKU_SSL_SERVER`. -/
def XKU_SSL_SERVER : UInt32 := 0x1

/-- `XKU_SSL_CLIENT`. -/
def XKU_SSL_CLIENT : UInt32 := 0x2

/-- `SSL_VERIFY_PEER`. -/
def SSL_VERIFY_PEER : ℕ := 0x01

/-- `SSL_VERIFY_FAIL_IF_NO_PEER_CERT`. -/
def SSL_VERIFY_FAIL_IF_NO_PEER_CERT : ℕ := 0x02

/-- `SSL_VERIFY_CLIENT_ONCE`. -/
def SSL_VERIFY_CLIENT_ONCE : ℕ := 0x04

/-- `TLS1_3_VERSION`. -/
def TLS1_3_VERSION : ℕ := 0x0304

/-- `ossl_verify_depth`. -/
def ossl_verify_depth : ℕ := 5

/-- `pva_alpn`: the protocol list `"\x05pva/1"`. -/
def pva_alpn : List UInt8 := [5, 0x70, 0x76, 0x61, 0x2f, 0x31]

/-- A private key (`EVP_PKEY`), by identity. -/
structure EvpPkey where
  id : ℕ
  deriving DecidableEq, Repr

/-- A PKCS#12 object read from a file, by identity. -/
structure Pkcs12 where
  id : ℕ
  deriving DecidableEq, Repr

/-- What `PKCS12_parse` finds: the key, the certificate and the other
certificates of the bag. -/
structure P12Contents where
  key : Option EvpPkey
  cert : Option X509
  cas : List X509

/-- What OpenSSL answers the setup code. -/
structure Ossl where
  /-- `fopen` and `d2i_PKCS12_fp`: the PKCS#12 object of a readable file -/
  readP12 : String → Option Pkcs12
  /-- `PKCS12_parse` with a password -/
  pkcs12Parse : Pkcs12 → String → Option P12Contents
  /-- `X509_get_extension_flags` -/
  extensionFlags : X509 → UInt32
  /-- `X509_get_extended_key_usage` -/
  extendedKeyUsage : X509 → UInt32
  /-- `X509_check_ca` -/
  checkCa : X509 → ℤ
  /-- the data of the first `NID_commonName` entry of `X509_get_subject_name` -/
  commonName : X509 → Option (List UInt8)
  /-- `SSL_CTX_use_certificate` succeeds -/
  useCertificate : X509 → Bool
  /-- `SSL_CTX_use_PrivateKey` succeeds -/
  usePrivateKey : EvpPkey → Bool
  /-- `SSL_CTX_check_private_key`, against the context's certificate -/
  checkPrivateKey : Option X509 → EvpPkey → Bool
  /-- `SSL_CTX_build_cert_chain` with `SSL_BUILD_CHAIN_FLAG_CHECK`, from the
  certificate, the chain and the trust store -/
  buildCertChain : X509 → List X509 → List X509 → Bool
  /-- OpenSSL sets `EXFLAG_SS` only on a self-issued certificate. -/
  ss_si : ∀ c, extensionFlags c &&& EXFLAG_SS ≠ 0 → extensionFlags c &&& EXFLAG_SI ≠ 0

/-- `ConfigCommon::tls_client_cert_required`. -/
inductive ClientCertRequired
  | Default | Optional | Require
  deriving DecidableEq, Repr

/-- `impl::ConfigCommon`, by the fields `ossl_setup_common` reads. -/
structure ConfigCommon where
  tlsDisabled : Bool
  tlsDisableStatusCheck : Bool
  tlsDisableStapling : Bool
  /-- `isTlsConfigured()` -/
  tlsConfigured : Bool
  tlsCertFilename : String
  tlsCertPassword : String
  tlsPrivateKeyFilename : String
  tlsPrivateKeyPassword : String
  tlsClientCertRequired : ClientCertRequired

/-- `SSLContext` and the state of its `SSL_CTX`. -/
structure SSLContext where
  statusCheckDisabled : Bool
  staplingDisabled : Bool
  /-- the `CertStatusExData` side car -/
  exData : CertStatusExData
  /-- `ex_data->cert` -/
  exCert : Option X509 := none
  hasCert : Bool := false
  certIsValid : Bool := false
  /-- the certificate and key of `SSL_CTX_use_certificate`, `SSL_CTX_use_PrivateKey` -/
  cert : Option X509 := none
  key : Option EvpPkey := none
  /-- the trust store -/
  trusted : List X509 := []
  /-- `SSL_CTX::cert::chain` -/
  chain : List X509 := []
  minProtoVersion : ℕ
  maxProtoVersion : ℕ
  /-- `SSL_CTX_set_verify`: the mode, 0 (`SSL_VERIFY_NONE`) until set -/
  verifyMode : ℕ := 0
  /-- `ossl_verify` is the verify callback -/
  verifyCallback : Bool := false
  verifyDepth : Option ℕ := none
  /-- `SSL_CTX_set_alpn_protos` -/
  alpnProtos : Option (List UInt8) := none
  /-- `ossl_alpn_select` is the ALPN select callback -/
  alpnSelect : Bool := false

/-- The exceptions of the setup: `std::runtime_error`, `SSLError` (the message
it is given; the text it reports puts OpenSSL's queued errors before it), or a
failed `assert`. -/
inductive SetupExn
  | runtime (msg : String)
  | ssl (msg : String)
  | aborted (assertion : String)
  deriving DecidableEq, Repr

theorem map_eq_ok {ε α β : Type} {f : α → β} {x : Except ε α} {b : β} :
    (f <$> x) = .ok b ↔ ∃ a, x = .ok a ∧ f a = b := by
  cases x <;> simp [Functor.map, Except.map]

section Setup

open CertStatusManager

variable (o : Ossl)

/-- `verifyKeyUsage`: an end-entity certificate whose extended key usage
permits its role. -/
def verifyKeyUsage (cert : X509) (sslClient : Bool) : Except SetupExn Unit :=
  let flags := o.extensionFlags cert
  let kusage := o.extendedKeyUsage cert
  if flags &&& EXFLAG_CA ≠ 0 then .error (.runtime "Found CA Certificate when End Entity expected")
  else if (sslClient && kusage &&& XKU_SSL_CLIENT == 0) || (!sslClient && kusage &&& XKU_SSL_SERVER == 0) then
    .error (.runtime ("Extended Key Usage does not permit usage as a Secure PVAccesss " ++
      if sslClient then "Client" else "Server"))
  else .ok ()

/-- The loop of `extractCAs` from place `i` of the CA bag. -/
def extractCAsLoop : ℕ → SSLContext → List X509 → Except SetupExn SSLContext
  | _, ctx, [] => .ok ctx
  | i, ctx, ca :: rest =>
    let canSign := o.checkCa ca
    let flags := o.extensionFlags ca
    if canSign = 0 ∧ i ≠ 0 then .error (.runtime "non-CA certificate found in PKCS#12 chain")
    else if flags &&& EXFLAG_SS ≠ 0 ∧ flags &&& EXFLAG_SI = 0 then .error (.aborted "flags & EXFLAG_SI")
    else
      let ctx := if flags &&& EXFLAG_SS ≠ 0 then { ctx with trusted := ctx.trusted ++ [ca] } else ctx
      extractCAsLoop (i + 1) { ctx with chain := ctx.chain ++ [ca] } rest

/-- `extractCAs`: trust the self-signed CAs of the bag, add every CA to the
chain; a non-CA is refused except in the first place. -/
def extractCAs (ctx : SSLContext) (CAs : List X509) : Except SetupExn SSLContext :=
  extractCAsLoop o 0 ctx CAs

/-- `checkP12File`: the PKCS#12 object, or `none` for a client when the file
cannot be read; a server throws. -/
def checkP12File (filename : String) (forClient : Bool) : Except SetupExn (Option Pkcs12) :=
  match o.readP12 filename with
  | some p12 => .ok (some p12)
  | none =>
    if forClient then .ok none
    else .error (.runtime ("Invalid, Untrusted, or Nonexistent cert file at [" ++ filename ++ "]"))

/-- `getKeyAndCertFromP12File`: `none` when it returns false, otherwise what
it took from the file (the key, the certificate and chain, or both). -/
def getKeyAndCertFromP12File (filename password : String) (sslClient getKey getCert : Bool) :
    Except SetupExn (Option P12Contents) := do
  match ← checkP12File o filename sslClient with
  | none => pure none
  | some p12 =>
    match o.pkcs12Parse p12 password with
    | some c =>
      if getKey && getCert then pure (some c)
      else if getKey then pure (some { c with cert := none, cas := [] })
      else pure (some { c with key := none })
    | none => .error (.ssl ("Unable to process \"" ++ filename ++ "\""))

/-- `getKeyFromP12File`. -/
def getKeyFromP12File (filename password : String) (sslClient : Bool) :
    Except SetupExn (Option (Option EvpPkey)) :=
  (Option.map P12Contents.key) <$> getKeyAndCertFromP12File o filename password sslClient true false

/-- `getCertFromP12File`. -/
def getCertFromP12File (filename password : String) (sslClient : Bool) :
    Except SetupExn (Option (Option X509 × List X509)) :=
  (Option.map fun c => (c.cert, c.cas)) <$> getKeyAndCertFromP12File o filename password sslClient false true

/-- The keychain `ossl_setup_common` reads: one file holding key and
certificate, or a key file (defaulting to the certificate file, its password
to the certificate's) and a certificate file; `none` where it returns early. -/
def readKeychain (sslClient : Bool) (conf : ConfigCommon) : Except SetupExn (Option P12Contents) := do
  let filename := conf.tlsCertFilename
  let password := conf.tlsCertPassword
  let keyFilename := if conf.tlsPrivateKeyFilename.isEmpty then filename else conf.tlsPrivateKeyFilename
  let keyPassword := if conf.tlsPrivateKeyPassword.isEmpty then password else conf.tlsPrivateKeyPassword
  if keyFilename = filename then getKeyAndCertFromP12File o filename password sslClient true true
  else
    match ← getKeyFromP12File o keyFilename keyPassword sslClient with
    | none => pure none
    | some key =>
      match ← getCertFromP12File o filename password sslClient with
      | none => pure none
      | some (cert, cas) => pure (some ⟨key, cert, cas⟩)

/-- The part of `ossl_setup_common` after the keychain is read: usage check,
certificate and key into the context, `extractCAs`, the key check, and the
certificate moved to the side car with its chain built. -/
def installKeychain (sslClient : Bool) (ctx : SSLContext) (kc : P12Contents) :
    Except SetupExn SSLContext := do
  if let some c := kc.cert then verifyKeyUsage o c sslClient
  if let some c := kc.cert then
    if !o.useCertificate c then throw (.ssl "SSL_CTX_use_certificate")
  let ctx := { ctx with cert := kc.cert }
  if let some k := kc.key then
    if !o.usePrivateKey k then throw (.ssl "SSL_CTX_use_certificate")
  let ctx := { ctx with key := kc.key }
  let ctx ← extractCAs o ctx kc.cas
  if let some k := kc.key then
    if !o.checkPrivateKey ctx.cert k then throw (.ssl "invalid private key")
  match kc.cert with
  | none => pure ctx
  | some c =>
    let ctx := { ctx with exCert := some c, hasCert := true }
    if !o.buildCertChain c ctx.chain ctx.trusted then throw (.ssl "invalid cert chain")
    pure (if ctx.statusCheckDisabled then { ctx with certIsValid := true } else ctx)

/-- The verify mode `ossl_setup_common` sets. -/
def verifyModeFor (sslClient : Bool) (conf : ConfigCommon) : ℕ :=
  if !sslClient && conf.tlsClientCertRequired = .Require then
    SSL_VERIFY_PEER ||| SSL_VERIFY_CLIENT_ONCE ||| SSL_VERIFY_FAIL_IF_NO_PEER_CERT
  else SSL_VERIFY_PEER ||| SSL_VERIFY_CLIENT_ONCE

/-- The context `ossl_setup_common` starts from: the flags, a side car with
status checking as configured and an empty cache, TLS 1.3 and up. -/
def newContext (conf : ConfigCommon) : SSLContext :=
  { statusCheckDisabled := conf.tlsDisableStatusCheck, staplingDisabled := conf.tlsDisableStapling,
    exData := ⟨!conf.tlsDisableStatusCheck, fun _ => {}⟩, minProtoVersion := TLS1_3_VERSION,
    maxProtoVersion := 0 }

/-- `ossl_setup_common`.  A client with TLS disabled, or one whose keychain
file cannot be read, returns before the verify callback is set. -/
def ossl_setup_common (sslClient : Bool) (conf : ConfigCommon) : Except SetupExn SSLContext := do
  let ctx := newContext conf
  if sslClient && conf.tlsDisabled then return ctx
  let loaded ← if conf.tlsConfigured then
      match ← readKeychain o sslClient conf with
      | none => pure none
      | some kc => some <$> installKeychain o sslClient ctx kc
    else pure (some ctx)
  match loaded with
  | none => pure ctx
  | some ctx =>
    pure { ctx with verifyMode := verifyModeFor sslClient conf, verifyCallback := true,
                    verifyDepth := some ossl_verify_depth }

/-- `SSLContext::for_client`: the client context, offering `pva/1`. -/
def for_client (conf : ConfigCommon) : Except SetupExn SSLContext :=
  (fun ctx => { ctx with alpnProtos := some pva_alpn }) <$> ossl_setup_common o true conf

/-- `SSLContext::for_server`: the server context, selecting with
`ossl_alpn_select`. -/
def for_server (conf : ConfigCommon) : Except SetupExn SSLContext :=
  (fun ctx => { ctx with alpnSelect := true }) <$> ossl_setup_common o false conf

/-! ### The CA bag and the keychain -/

/-- The context after `extractCAs` succeeds on `cas`: the self-signed members
of the bag added to the trust store, all of them to the chain. -/
def addCAs (ctx : SSLContext) (cas : List X509) : SSLContext :=
  { ctx with trusted := ctx.trusted ++ cas.filter (fun c => o.extensionFlags c &&& EXFLAG_SS != 0),
             chain := ctx.chain ++ cas }

/-- After the first place the loop refuses any non-CA. -/
theorem extractCAsLoop_succ (i : ℕ) (ctx : SSLContext) (cas : List X509) :
    extractCAsLoop o (i + 1) ctx cas =
      if ∀ ca ∈ cas, o.checkCa ca ≠ 0 then .ok (addCAs o ctx cas)
      else .error (.runtime "non-CA certificate found in PKCS#12 chain") := by
  induction cas generalizing i ctx with
  | nil => simp [extractCAsLoop, addCAs]
  | cons ca rest ih =>
    have hsi := o.ss_si ca
    by_cases hca : o.checkCa ca = 0
    · simp [extractCAsLoop, hca]
    · rw [extractCAsLoop, if_neg (by omega), if_neg (by tauto), ih]
      by_cases hss : o.extensionFlags ca &&& EXFLAG_SS = 0 <;>
        simp [hca, hss, addCAs, List.filter_cons]

/-- **`extractCAs` in closed form.**  The bag is refused exactly when a
certificate after the first place is not a CA; otherwise the trust store gains
exactly the self-signed members of the bag and the chain gains all of them, in
order.  (A non-CA in first place is accepted and chained, and OpenSSL's
`EXFLAG_SS` implies `EXFLAG_SI`, so the `assert` never fails.) -/
theorem extractCAs_eq (ctx : SSLContext) (cas : List X509) :
    extractCAs o ctx cas =
      if ∀ ca ∈ cas.tail, o.checkCa ca ≠ 0 then .ok (addCAs o ctx cas)
      else .error (.runtime "non-CA certificate found in PKCS#12 chain") := by
  cases cas with
  | nil => simp [extractCAs, extractCAsLoop, addCAs]
  | cons ca rest =>
    have hsi := o.ss_si ca
    rw [extractCAs, extractCAsLoop, if_neg (by omega), if_neg (by tauto), extractCAsLoop_succ]
    by_cases hss : o.extensionFlags ca &&& EXFLAG_SS = 0 <;>
      simp [hss, addCAs, List.filter_cons]

theorem extractCAs_of_forall {ctx : SSLContext} {cas : List X509} (hall : ∀ ca ∈ cas.tail, o.checkCa ca ≠ 0) :
    extractCAs o ctx cas = .ok (addCAs o ctx cas) := by
  rw [extractCAs_eq, if_pos hall]

theorem verifyKeyUsage_eq_ok (cert : X509) (sslClient : Bool) :
    verifyKeyUsage o cert sslClient = .ok () ↔
      o.extensionFlags cert &&& EXFLAG_CA = 0 ∧
        o.extendedKeyUsage cert &&& (if sslClient then XKU_SSL_CLIENT else XKU_SSL_SERVER) ≠ 0 := by
  unfold verifyKeyUsage
  cases sslClient <;> simp only [Bool.false_eq_true, if_false, if_true] <;> split_ifs <;> simp_all

/-- What a successful `installKeychain` checked and built: the bag's CAs, the
certificate's usage and chain, the key against the certificate, and the
context with the certificate moved to the side car. -/
theorem installKeychain_eq_ok {sslClient : Bool} {ctx ctx' : SSLContext} {kc : P12Contents}
    (h : installKeychain o sslClient ctx kc = .ok ctx') :
    (∀ ca ∈ kc.cas.tail, o.checkCa ca ≠ 0) ∧
    (∀ c, kc.cert = some c → verifyKeyUsage o c sslClient = .ok () ∧ o.useCertificate c = true ∧
        o.buildCertChain c (addCAs o ctx kc.cas).chain (addCAs o ctx kc.cas).trusted = true) ∧
    (∀ k, kc.key = some k → o.usePrivateKey k = true ∧ o.checkPrivateKey kc.cert k = true) ∧
    ctx' = { (addCAs o ctx kc.cas) with
      cert := kc.cert, key := kc.key, exCert := kc.cert.or ctx.exCert,
      hasCert := kc.cert.isSome || ctx.hasCert,
      certIsValid := (kc.cert.isSome && ctx.statusCheckDisabled) || ctx.certIsValid } := by
  obtain ⟨key, cert, cas⟩ := kc
  by_cases hall : ∀ ca ∈ cas.tail, o.checkCa ca ≠ 0
  · -- the bag is accepted: the guards on the certificate and the key decide
    cases cert with
    | none =>
      cases key <;> simp [installKeychain, extractCAs_of_forall o hall, addCAs, bind, Except.bind, pure,
        Except.pure] at h ⊢ <;> (try split_ifs at h) <;> simp_all
    | some c =>
      cases hv : verifyKeyUsage o c sslClient <;> cases key <;>
        simp [installKeychain, extractCAs_of_forall o hall, hv, addCAs, bind, Except.bind, pure,
          Except.pure] at h ⊢ <;> split_ifs at h <;> simp_all
  · -- the bag is refused, so every path ends in an exception
    exfalso
    cases cert with
    | none =>
      cases key <;> simp [installKeychain, extractCAs_eq, hall, bind, Except.bind, pure, Except.pure] at h
      split_ifs at h
    | some c =>
      cases hv : verifyKeyUsage o c sslClient <;> cases key <;>
        simp [installKeychain, extractCAs_eq, hv, hall, bind, Except.bind, pure, Except.pure] at h <;>
        split_ifs at h

theorem installKeychain_exData {sslClient : Bool} {ctx ctx' : SSLContext} {kc : P12Contents}
    (h : installKeychain o sslClient ctx kc = .ok ctx') :
    ctx'.exData = ctx.exData ∧ ctx'.statusCheckDisabled = ctx.statusCheckDisabled := by
  obtain ⟨-, -, -, rfl⟩ := installKeychain_eq_ok o h
  exact ⟨rfl, rfl⟩

/-- A refused key is reported as a refused certificate: whether
`SSL_CTX_use_certificate` refuses the certificate or `SSL_CTX_use_PrivateKey`
refuses the key, the setup throws `SSLError("SSL_CTX_use_certificate")`. -/
theorem installKeychain_use_error {sslClient : Bool} {ctx : SSLContext} {kc : P12Contents}
    (hv : ∀ c, kc.cert = some c → verifyKeyUsage o c sslClient = .ok ())
    (hrefused : (∃ c, kc.cert = some c ∧ o.useCertificate c = false) ∨
      ((∀ c, kc.cert = some c → o.useCertificate c = true) ∧ ∃ k, kc.key = some k ∧ o.usePrivateKey k = false)) :
    installKeychain o sslClient ctx kc = .error (.ssl "SSL_CTX_use_certificate") := by
  obtain ⟨key, cert, cas⟩ := kc
  rcases hrefused with ⟨c, rfl, hc⟩ | ⟨hc, k, rfl, hk⟩
  · simp [installKeychain, hv c rfl, hc, bind, Except.bind, pure, Except.pure]
  · cases cert with
    | none => simp [installKeychain, hk, bind, Except.bind, pure, Except.pure]
    | some c => simp [installKeychain, hv c rfl, hc c rfl, hk, bind, Except.bind, pure, Except.pure]

theorem checkP12File_server {filename : String} {r : Option Pkcs12}
    (h : checkP12File o filename false = .ok r) : r.isSome := by
  unfold checkP12File at h
  split at h
  · cases h; rfl
  · simp at h

theorem getKeyAndCertFromP12File_server {filename password : String} {getKey getCert : Bool}
    {r : Option P12Contents} (h : getKeyAndCertFromP12File o filename password false getKey getCert = .ok r) :
    r.isSome := by
  obtain ⟨q, hq, h⟩ := bind_eq_ok.mp h
  obtain ⟨p12, rfl⟩ := Option.isSome_iff_exists.mp (checkP12File_server o hq)
  simp only at h
  split at h
  · split_ifs at h <;> cases h <;> rfl
  · cases h

theorem readKeychain_server {conf : ConfigCommon} {r : Option P12Contents}
    (h : readKeychain o false conf = .ok r) : r.isSome := by
  simp only [readKeychain] at h
  generalize (if conf.tlsPrivateKeyFilename.isEmpty then _ else _) = keyFilename at h
  generalize (if conf.tlsPrivateKeyPassword.isEmpty then _ else _) = keyPassword at h
  split at h
  · exact getKeyAndCertFromP12File_server o h
  · obtain ⟨k, hk, h⟩ := bind_eq_ok.mp h
    obtain ⟨q, hq, rfl⟩ := map_eq_ok.mp hk
    obtain ⟨kc, rfl⟩ := Option.isSome_iff_exists.mp (getKeyAndCertFromP12File_server o hq)
    obtain ⟨c, hc, h⟩ := bind_eq_ok.mp h
    obtain ⟨q', hq', rfl⟩ := map_eq_ok.mp hc
    obtain ⟨kc', rfl⟩ := Option.isSome_iff_exists.mp (getKeyAndCertFromP12File_server o hq')
    cases h; rfl

theorem getKeyAndCertFromP12File_unreadable {filename password : String} {getKey getCert : Bool}
    (h : o.readP12 filename = none) :
    getKeyAndCertFromP12File o filename password true getKey getCert = .ok none := by
  simp [getKeyAndCertFromP12File, checkP12File, h, bind, Except.bind, pure, Except.pure]

theorem readKeychain_unreadable {conf : ConfigCommon} (hcert : o.readP12 conf.tlsCertFilename = none)
    (hkey : conf.tlsPrivateKeyFilename = "" ∨ o.readP12 conf.tlsPrivateKeyFilename = none) :
    readKeychain o true conf = .ok none := by
  have hk : o.readP12 (if conf.tlsPrivateKeyFilename.isEmpty then conf.tlsCertFilename
      else conf.tlsPrivateKeyFilename) = none := by
    rcases hkey with hkey | hkey
    · simpa [hkey] using hcert
    · split <;> assumption
  simp only [readKeychain]
  generalize (if conf.tlsPrivateKeyFilename.isEmpty then _ else _) = keyFilename at hk ⊢
  generalize (if conf.tlsPrivateKeyPassword.isEmpty then _ else _) = keyPassword
  split
  · exact getKeyAndCertFromP12File_unreadable o hcert
  · simp [getKeyFromP12File, getKeyAndCertFromP12File_unreadable o hk, Functor.map, Except.map, bind,
      Except.bind, pure, Except.pure]

/-! ### `ossl_setup_common` -/

/-- What `ossl_setup_common` can return: the bare context to a client (TLS
disabled, or a keychain it could not open), or a context, bare or with the
keychain installed, with `ossl_verify` set as the verify callback. -/
theorem ossl_setup_common_eq_ok {sslClient : Bool} {conf : ConfigCommon} {ctx : SSLContext}
    (h : ossl_setup_common o sslClient conf = .ok ctx) :
    (sslClient = true ∧ ctx = newContext conf ∧
        (conf.tlsDisabled = true ∨ conf.tlsConfigured = true ∧ readKeychain o true conf = .ok none)) ∨
      ∃ base, (conf.tlsConfigured = false ∧ base = newContext conf ∨
          ∃ kc, conf.tlsConfigured = true ∧ readKeychain o sslClient conf = .ok (some kc) ∧
            installKeychain o sslClient (newContext conf) kc = .ok base) ∧
        ctx = { base with verifyMode := verifyModeFor sslClient conf, verifyCallback := true,
                          verifyDepth := some ossl_verify_depth } := by
  unfold ossl_setup_common at h
  by_cases hd : (sslClient && conf.tlsDisabled) = true
  · simp only [hd, if_true] at h
    cases h
    obtain ⟨rfl, hdis⟩ := Bool.and_eq_true_iff.mp hd
    exact .inl ⟨rfl, rfl, .inl hdis⟩
  simp only [hd, Bool.false_eq_true, if_false, pure, Except.pure, bind, Except.bind] at h
  cases hcfg : conf.tlsConfigured
  · simp only [hcfg] at h
    cases h
    exact .inr ⟨_, .inl ⟨rfl, rfl⟩, rfl⟩
  simp only [hcfg, if_true] at h
  cases hr : readKeychain o sslClient conf with
  | error e => simp [hr] at h
  | ok r =>
    cases r with
    | none =>
      cases sslClient
      · simpa using readKeychain_server o hr
      simp only [hr] at h
      cases h
      exact .inl ⟨rfl, rfl, .inr ⟨rfl, hr⟩⟩
    | some kc =>
      cases hi : installKeychain o sslClient (newContext conf) kc with
      | error e => simp [hr, hi, Functor.map, Except.map] at h
      | ok base =>
        simp only [hr, hi, Functor.map, Except.map] at h
        cases h
        exact .inr ⟨base, .inr ⟨kc, rfl, rfl, hi⟩, rfl⟩

theorem ossl_setup_common_exData {sslClient : Bool} {conf : ConfigCommon} {ctx : SSLContext}
    (h : ossl_setup_common o sslClient conf = .ok ctx) :
    ctx.exData = ⟨!conf.tlsDisableStatusCheck, fun _ => {}⟩ ∧
      ctx.statusCheckDisabled = conf.tlsDisableStatusCheck := by
  rcases ossl_setup_common_eq_ok o h with ⟨-, rfl, -⟩ | ⟨base, ⟨-, rfl⟩ | ⟨kc, -, -, hi⟩, rfl⟩
  · exact ⟨rfl, rfl⟩
  · exact ⟨rfl, rfl⟩
  · exact installKeychain_exData o hi

/-- **A loaded certificate.**  A context that holds a certificate got it from
the keychain, with the keychain's key; it is an end-entity certificate whose
extended key usage permits the peer's role, its chain was built from the bag
against the trust store, the trust store holds exactly the bag's self-signed
CAs, and the certificate is marked valid exactly when status checking is
disabled. -/
theorem ossl_setup_common_keychain {sslClient : Bool} {conf : ConfigCommon} {ctx : SSLContext}
    (h : ossl_setup_common o sslClient conf = .ok ctx) (hc : ctx.hasCert = true) :
    ∃ kc c, readKeychain o sslClient conf = .ok (some kc) ∧ kc.cert = some c ∧
      ctx.cert = some c ∧ ctx.exCert = some c ∧ ctx.key = kc.key ∧
      (∀ ca ∈ kc.cas.tail, o.checkCa ca ≠ 0) ∧
      ctx.trusted = kc.cas.filter (fun ca => o.extensionFlags ca &&& EXFLAG_SS != 0) ∧
      ctx.chain = kc.cas ∧
      o.extensionFlags c &&& EXFLAG_CA = 0 ∧
      o.extendedKeyUsage c &&& (if sslClient then XKU_SSL_CLIENT else XKU_SSL_SERVER) ≠ 0 ∧
      o.buildCertChain c ctx.chain ctx.trusted = true ∧
      ctx.certIsValid = conf.tlsDisableStatusCheck ∧ ctx.verifyCallback = true := by
  rcases ossl_setup_common_eq_ok o h with ⟨-, rfl, -⟩ | ⟨base, ⟨-, rfl⟩ | ⟨kc, -, hr, hi⟩, rfl⟩
  · cases hc
  · cases hc
  obtain ⟨hbag, hcert, -, rfl⟩ := installKeychain_eq_ok o hi
  obtain ⟨c, hkc⟩ : ∃ c, kc.cert = some c := Option.isSome_iff_exists.mp (by simpa [newContext] using hc)
  obtain ⟨hv, -, hb⟩ := hcert c hkc
  obtain ⟨hca, hxku⟩ := (verifyKeyUsage_eq_ok o c sslClient).mp hv
  refine ⟨kc, c, hr, hkc, hkc, by simp [hkc], rfl, hbag, by simp [addCAs, newContext],
    by simp [addCAs, newContext],
    hca, hxku, by simpa [addCAs, newContext] using hb, by simp [hkc, newContext], rfl⟩

/-- The root CA of the test keychain. -/
def rootCa : X509 := ⟨1, "CN=EPICS Root CA", none⟩

/-- A server certificate issued by `rootCa`. -/
def serverCert : X509 := ⟨2, "CN=EPICS Root CA", none⟩

/-- An OpenSSL that reads the keychain `server.p12`: a key, `serverCert`, and
`rootCa` in the bag. -/
def serverOssl : Ossl where
  readP12 f := if f = "server.p12" then some ⟨1⟩ else none
  pkcs12Parse _ _ := some ⟨some ⟨1⟩, some serverCert, [rootCa]⟩
  extensionFlags c := if c = rootCa then EXFLAG_CA ||| EXFLAG_SI ||| EXFLAG_SS else 0
  extendedKeyUsage _ := XKU_SSL_SERVER
  checkCa c := if c = rootCa then 1 else 0
  commonName _ := none
  useCertificate _ := true
  usePrivateKey _ := true
  checkPrivateKey _ _ := true
  buildCertChain _ _ _ := true
  ss_si c h := by
    by_cases hc : c = rootCa
    · simp only [hc, if_true]; decide
    · exact absurd (show (0 : UInt32) &&& EXFLAG_SS = 0 by decide) (by simpa [hc] using h)

/-- A server with the keychain `server.p12` and status checking on. -/
def serverConf : ConfigCommon :=
  { tlsDisabled := false, tlsDisableStatusCheck := false, tlsDisableStapling := false, tlsConfigured := true,
    tlsCertFilename := "server.p12", tlsCertPassword := "", tlsPrivateKeyFilename := "",
    tlsPrivateKeyPassword := "", tlsClientCertRequired := .Require }

theorem ossl_setup_common_keychain_server :
    ∃ ctx, ossl_setup_common serverOssl false serverConf = .ok ctx ∧ ctx.hasCert = true ∧
      ∃ kc c, readKeychain serverOssl false serverConf = .ok (some kc) ∧ kc.cert = some c ∧
        ctx.cert = some c ∧ ctx.exCert = some c ∧ ctx.key = kc.key ∧
        (∀ ca ∈ kc.cas.tail, serverOssl.checkCa ca ≠ 0) ∧
        ctx.trusted = kc.cas.filter (fun ca => serverOssl.extensionFlags ca &&& EXFLAG_SS != 0) ∧
        ctx.chain = kc.cas ∧
        serverOssl.extensionFlags c &&& EXFLAG_CA = 0 ∧
        serverOssl.extendedKeyUsage c &&& (if false then XKU_SSL_CLIENT else XKU_SSL_SERVER) ≠ 0 ∧
        serverOssl.buildCertChain c ctx.chain ctx.trusted = true ∧
        ctx.certIsValid = serverConf.tlsDisableStatusCheck ∧ ctx.verifyCallback = true :=
  ⟨_, rfl, rfl, ossl_setup_common_keychain serverOssl rfl rfl⟩

/-- **Every server context verifies its peers.**  `SSLContext::for_server`
returns only contexts with `ossl_verify` as the verify callback, depth
`ossl_verify_depth`, and `SSL_VERIFY_FAIL_IF_NO_PEER_CERT` set when a client
certificate is required. -/
theorem for_server_verify {conf : ConfigCommon} {ctx : SSLContext} (h : for_server o conf = .ok ctx) :
    ctx.verifyCallback = true ∧ ctx.verifyMode = verifyModeFor false conf ∧
      ctx.verifyDepth = some ossl_verify_depth ∧ ctx.alpnSelect = true := by
  obtain ⟨c, hc, rfl⟩ := map_eq_ok.mp h
  rcases ossl_setup_common_eq_ok o hc with ⟨h1, -, -⟩ | ⟨base, -, rfl⟩
  · cases h1
  · exact ⟨rfl, rfl, rfl, rfl⟩

theorem for_server_verify_keychain :
    ∃ ctx, for_server serverOssl serverConf = .ok ctx ∧
      (ctx.verifyCallback = true ∧ ctx.verifyMode = verifyModeFor false serverConf ∧
        ctx.verifyDepth = some ossl_verify_depth ∧ ctx.alpnSelect = true) :=
  ⟨_, rfl, for_server_verify serverOssl rfl⟩

/-- **A client with an unreadable keychain does not verify servers.**  A client
with TLS enabled and a keychain configured, whose certificate file (and key
file, if separate) cannot be opened, gets a context still in OpenSSL's default
`SSL_VERIFY_NONE`, without `ossl_verify`; a client with TLS enabled and no
keychain configured gets `SSL_VERIFY_PEER | SSL_VERIFY_CLIENT_ONCE` with
`ossl_verify` at depth `ossl_verify_depth`. -/
theorem for_client_unreadable_keychain :
    (∀ conf : ConfigCommon, conf.tlsDisabled = false → conf.tlsConfigured = true →
      o.readP12 conf.tlsCertFilename = none →
      (conf.tlsPrivateKeyFilename = "" ∨ o.readP12 conf.tlsPrivateKeyFilename = none) →
      ∃ ctx, for_client o conf = .ok ctx ∧ ctx.verifyMode = 0 ∧ ctx.verifyCallback = false ∧
        ctx.cert = none) ∧
    ∀ conf : ConfigCommon, conf.tlsDisabled = false → conf.tlsConfigured = false →
      ∃ ctx, for_client o conf = .ok ctx ∧ ctx.verifyMode = SSL_VERIFY_PEER ||| SSL_VERIFY_CLIENT_ONCE ∧
        ctx.verifyCallback = true ∧ ctx.verifyDepth = some ossl_verify_depth ∧ ctx.cert = none := by
  refine ⟨fun conf hon hcfg hcert hkey => ⟨{ newContext conf with alpnProtos := some pva_alpn }, ?_, rfl, rfl, rfl⟩,
    fun conf hon hcfg =>
      ⟨{ newContext conf with
          verifyMode := SSL_VERIFY_PEER ||| SSL_VERIFY_CLIENT_ONCE, verifyCallback := true,
          verifyDepth := some ossl_verify_depth, alpnProtos := some pva_alpn }, ?_, rfl, rfl, rfl, rfl⟩⟩
  · simp [for_client, ossl_setup_common, hon, hcfg, readKeychain_unreadable o hcert hkey, bind, Except.bind,
      pure, Except.pure, Functor.map, Except.map]
  · simp [for_client, ossl_setup_common, hon, hcfg, verifyModeFor, bind, Except.bind, pure, Except.pure,
      Functor.map, Except.map]

/-- An OpenSSL that can read no PKCS#12 file. -/
def noFilesOssl : Ossl where
  readP12 _ := none
  pkcs12Parse _ _ := none
  extensionFlags _ := 0
  extendedKeyUsage _ := 0
  checkCa _ := 0
  commonName _ := none
  useCertificate _ := true
  usePrivateKey _ := true
  checkPrivateKey _ _ := true
  buildCertChain _ _ _ := true
  ss_si _ h := absurd (show (0 : UInt32) &&& EXFLAG_SS = 0 by decide) h

/-- A client configured with the keychain `client.p12` and no separate key file. -/
def clientConf : ConfigCommon :=
  { tlsDisabled := false, tlsDisableStatusCheck := false, tlsDisableStapling := false, tlsConfigured := true,
    tlsCertFilename := "client.p12", tlsCertPassword := "", tlsPrivateKeyFilename := "",
    tlsPrivateKeyPassword := "", tlsClientCertRequired := .Default }

/-- The same client with no keychain configured. -/
def bareClientConf : ConfigCommon := { clientConf with tlsConfigured := false }

/-- `client.p12` missing, and the client without a keychain. -/
theorem for_client_unreadable_keychain_missing :
    (clientConf.tlsDisabled = false ∧ clientConf.tlsConfigured = true ∧
      noFilesOssl.readP12 clientConf.tlsCertFilename = none ∧
      ∃ ctx, for_client noFilesOssl clientConf = .ok ctx ∧ ctx.verifyMode = 0 ∧
        ctx.verifyCallback = false ∧ ctx.cert = none) ∧
    (bareClientConf.tlsDisabled = false ∧ bareClientConf.tlsConfigured = false ∧
      ∃ ctx, for_client noFilesOssl bareClientConf = .ok ctx ∧
        ctx.verifyMode = SSL_VERIFY_PEER ||| SSL_VERIFY_CLIENT_ONCE ∧ ctx.verifyCallback = true ∧
        ctx.verifyDepth = some ossl_verify_depth ∧ ctx.cert = none) :=
  ⟨⟨rfl, rfl, rfl, (for_client_unreadable_keychain noFilesOssl).1 clientConf rfl rfl rfl (.inl rfl)⟩,
    ⟨rfl, rfl, (for_client_unreadable_keychain noFilesOssl).2 bareClientConf rfl rfl⟩⟩

/-- **The first check of a client certificate fetches its status.**  On a
fresh server context with status checking enabled, `ossl_verify` accepts a
monitored certificate only on a status fetched from the certificate's own
status PV, good at the check, which it then caches. -/
theorem for_server_first_verify {conf : ConfigCommon} {ctx : SSLContext} (h : for_server o conf = .ok ctx)
    (hen : conf.tlsDisableStatusCheck = false) {env : PeerEnv} {cert : X509} {err now now' n : ℤ}
    (hmon : statusMonitoringRequired cert = true)
    (hacc : (ossl_verify env ctx.exData 1 cert err now now').1 = .ret n) (hn : n ≠ 0) :
    ∃ st, getStatus env cert now = .ok st ∧ st.isGood now' = true ∧
      (ossl_verify env ctx.exData 1 cert err now now').2 = ctx.exData.setCachedPeerStatus cert.serial st := by
  obtain ⟨c, hc, rfl⟩ := map_eq_ok.mp h
  have hex := (ossl_setup_common_exData o hc).1
  obtain ⟨-, hst⟩ := ossl_verify_accepts hacc hn
  obtain ⟨st, hg, ⟨hcached, -⟩ | ⟨-, hs, hset⟩⟩ := hst hmon (by simp [hex, hen])
  · simp [hex, CertStatusExData.getCachedPeerStatus] at hcached
  · exact ⟨st, hs, hg, hset⟩

theorem for_server_first_verify_replay :
    ∃ ctx, for_server serverOssl serverConf = .ok ctx ∧
      (ossl_verify replayEnv ctx.exData 1 peerCert 0 checkTime checkTime).1 = .ret 1 ∧
      ∃ st, getStatus replayEnv peerCert checkTime = .ok st ∧ st.isGood checkTime = true ∧
        (ossl_verify replayEnv ctx.exData 1 peerCert 0 checkTime checkTime).2 =
          ctx.exData.setCachedPeerStatus peerCert.serial st :=
  have h : (ossl_verify replayEnv freshExData 1 peerCert 0 checkTime checkTime).1 = .ret 1 := by decide
  ⟨_, rfl, h, for_server_first_verify serverOssl (show for_server serverOssl serverConf = .ok _ from rfl)
    rfl rfl h (by decide)⟩

end Setup

end Pvxs
