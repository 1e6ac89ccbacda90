import Pvxs.TlsSetup
/-
The peer credentials of a TLS connection (`SSLContext::fill_credentials`).

`fill_credentials` reads the peer certificate's subject common name into a
stack buffer `char name[64]` with `X509_NAME_get_text_by_NID`, takes it as the
account with method `"x509"`, and then reads the common name of the last
certificate of the verified chain into the same buffer, as the authority, when
that certificate is a self-signed CA.

`X509_NAME_get_text_by_NID` returns -1 when the name has no such entry, which
the `if` takes as true, so that the account is read from the uninitialised
buffer (`fill_credentials_no_cn`), and 0 for an empty entry, which it takes as
false, leaving the credentials as they were (`fill_credentials_empty_cn`).

* `fill_credentials_account` — a peer certificate with a non-empty common name
  gives the account of the name's first 62 bytes, cut at the first NUL, so
  names that agree on those bytes give the same account;
* `fill_credentials_authority` — the authority changes only when the chain
  ends in a self-signed CA, and is then that CA's name, or the peer's own
  account when the CA has no common name.

Design notes: the stack buffer is the parameter `uninit`, any 64 bytes, the
subtype `NameBuf`.  `PeerCredentials` is not in src; it is given by the fields
`fill_credentials` writes and the `isTLS` flag it keeps, and `std::string`
values are their bytes, one `Char` each.
-/

namespace Pvxs

/-- `sizeof(name)` in `fill_credentials`. -/
def nameBufSize : ℕ := 64

/-- The stack buffer `char name[64]`. -/
def NameBuf := { b : List UInt8 // b.length = nameBufSize }

/-- Modelled from the call sites: `PeerCredentials` (not in src), by the fields
`fill_credentials` writes and the `isTLS` flag it keeps. -/
structure PeerCredentials where
  method : String
  account : String
  authority : String
  isTLS : Bool
  deriving DecidableEq, Repr

/-- What the TLS session shows `fill_credentials`: `SSL_get0_peer_certificate`
and `SSL_get0_verified_chain`. -/
structure PeerSession where
  peerCert : Option X509
  verifiedChain : Option (List X509)

/-- The `std::string` built from a `char *`: the bytes up to the first NUL. -/
def cString (b : List UInt8) : String :=
  String.mk ((b.takeWhile (· != 0)).map fun c => Char.ofNat c.toNat)

/-- `X509_NAME_get_text_by_NID(name, nid, buf, len)` given the data of the
name's first `nid` entry: -1 with `buf` untouched when there is none; otherwise
at most `len - 1` bytes copied and a NUL after them, returning the count (0,
untouched, when `len` is 0). -/
def X509_NAME_get_text_by_NID (entry : Option (List UInt8)) (buf : List UInt8) (len : ℕ) :
    ℤ × List UInt8 :=
  match entry with
  | none => (-1, buf)
  | some data =>
    if len = 0 then (0, buf)
    else
      let i := min data.length (len - 1)
      (i, data.take i ++ 0 :: buf.drop (i + 1))

section Credentials

variable (o : Ossl)

/-- The authority read from the verified chain, into the buffer `name` that
holds the peer's name: the last certificate's common name, when it has one
(or the buffer as it is, when it has none) and it is a self-signed CA. -/
def chainAuthority (chain : Option (List X509)) (name : List UInt8) (temp : PeerCredentials) :
    PeerCredentials :=
  match chain with
  | none => temp
  | some chain =>
    match chain.getLast? with
    | none => temp
    | some root =>
      let (r, name) := X509_NAME_get_text_by_NID (o.commonName root) name (nameBufSize - 1)
      if r ≠ 0 then
        if o.checkCa root ≠ 0 ∧ o.extensionFlags root &&& EXFLAG_SS ≠ 0 then
          { temp with authority := cString name }
        else temp
      else temp

/-- `SSLContext::fill_credentials(C, ctx)`, with the stack buffer holding
`uninit` on entry: whether there is a peer certificate, and `C` after. -/
def fill_credentials (uninit : NameBuf) (C : PeerCredentials) (s : PeerSession) :
    Bool × PeerCredentials :=
  match s.peerCert with
  | none => (false, C)
  | some cert =>
    let (r, name) := X509_NAME_get_text_by_NID (o.commonName cert) uninit.val (nameBufSize - 1)
    if r ≠ 0 then
      let name := name.set (nameBufSize - 1) 0
      (true, chainAuthority o s.verifiedChain name { C with method := "x509", account := cString name })
    else (true, C)

end Credentials

/-! ### C strings -/

theorem takeWhile_append_nul (l r : List UInt8) :
    (l ++ 0 :: r).takeWhile (· != 0) = l.takeWhile (· != 0) := by
  induction l with
  | nil => rfl
  | cons a l ih => by_cases ha : a = 0 <;> simp [List.takeWhile_cons, ha, ih]

/-- A NUL ends the string: what follows it is not read. -/
@[simp] theorem cString_append_nul (l r : List UInt8) : cString (l ++ 0 :: r) = cString l := by
  simp only [cString, takeWhile_append_nul]

theorem set_append_nul (l r : List UInt8) {n : ℕ} (hn : l.length < n) :
    (l ++ 0 :: r).set n 0 = l ++ 0 :: r.set (n - l.length - 1) 0 := by
  rw [List.set_append_right _ _ (by omega)]
  obtain ⟨k, hk⟩ : ∃ k, n - l.length = k + 1 := ⟨n - l.length - 1, by omega⟩
  rw [hk]
  rfl

/-- `X509_NAME_get_text_by_NID` with `len = sizeof(name) - 1` on an entry: at
most 62 bytes copied, then a NUL. -/
theorem get_text_some (data buf : List UInt8) :
    X509_NAME_get_text_by_NID (some data) buf (nameBufSize - 1) =
      (((min data.length (nameBufSize - 2) : ℕ) : ℤ),
        data.take (min data.length (nameBufSize - 2)) ++ 0 :: buf.drop (min data.length (nameBufSize - 2) + 1)) :=
  rfl

theorem take_min_nameBuf (data : List UInt8) :
    data.take (min data.length (nameBufSize - 2)) = data.take (nameBufSize - 2) :=
  List.take_eq_take.mpr (by omega)

/-- The string an entry leaves in the buffer: its first 62 bytes, up to a NUL. -/
theorem cString_get_text_some (data buf : List UInt8) :
    cString (X509_NAME_get_text_by_NID (some data) buf (nameBufSize - 1)).2 =
      cString (data.take (nameBufSize - 2)) := by
  rw [get_text_some, cString_append_nul, take_min_nameBuf]

/-- The same, once `name[sizeof(name) - 1]` is zeroed. -/
theorem cString_get_text (data buf : List UInt8) :
    cString ((X509_NAME_get_text_by_NID (some data) buf (nameBufSize - 1)).2.set (nameBufSize - 1) 0) =
      cString (data.take (nameBufSize - 2)) := by
  have hlen : (data.take (min data.length (nameBufSize - 2))).length < nameBufSize - 1 := by
    simp only [List.length_take, nameBufSize]; omega
  rw [get_text_some, set_append_nul _ _ hlen, cString_append_nul, take_min_nameBuf]

/-! ### `fill_credentials` -/

section Credentials

variable (o : Ossl)

/-- The chain step writes the authority and nothing else. -/
theorem chainAuthority_eq (chain : Option (List X509)) (name : List UInt8) (temp : PeerCredentials) :
    chainAuthority o chain name temp = { temp with authority := (chainAuthority o chain name temp).authority } := by
  unfold chainAuthority
  split
  · rfl
  split
  · rfl
  split
  split_ifs <;> rfl

/-- A non-empty entry is copied: the call returns its (non-zero) length. -/
theorem get_text_ne_zero {data : List UInt8} (buf : List UInt8) (hne : data ≠ []) :
    (X509_NAME_get_text_by_NID (some data) buf (nameBufSize - 1)).1 ≠ 0 := by
  have : data.length ≠ 0 := fun h => hne (List.length_eq_zero.mp h)
  rw [get_text_some]
  simp only [nameBufSize]
  omega

/-- The credentials after a peer certificate whose common name was read:
method `"x509"`, the account from the buffer, the authority from the chain. -/
theorem fill_credentials_of_text {uninit : NameBuf} {C : PeerCredentials} {s : PeerSession} {cert : X509}
    (hc : s.peerCert = some cert)
    (hr : (X509_NAME_get_text_by_NID (o.commonName cert) uninit.val (nameBufSize - 1)).1 ≠ 0) :
    let name := (X509_NAME_get_text_by_NID (o.commonName cert) uninit.val (nameBufSize - 1)).2.set
      (nameBufSize - 1) 0
    fill_credentials o uninit C s =
      (true, chainAuthority o s.verifiedChain name { C with method := "x509", account := cString name }) := by
  simp only [fill_credentials, hc, if_pos hr]

theorem fill_credentials_account (uninit : NameBuf) (C : PeerCredentials) (s : PeerSession) {cert : X509}
    {data : List UInt8} (hc : s.peerCert = some cert) (hcn : o.commonName cert = some data) (hne : data ≠ []) :
    (fill_credentials o uninit C s).1 = true ∧ (fill_credentials o uninit C s).2.method = "x509" ∧
      (fill_credentials o uninit C s).2.account = cString (data.take (nameBufSize - 2)) ∧
      (fill_credentials o uninit C s).2.isTLS = C.isTLS := by
  have hr := get_text_ne_zero uninit.val hne
  rw [← hcn] at hr
  rw [fill_credentials_of_text o hc hr, chainAuthority_eq]
  simp only [hcn, cString_get_text, and_self]

/-- A 64-byte common name: 62 bytes `a`, then `last` twice. -/
def longCN (last : UInt8) : List UInt8 := List.replicate 62 0x61 ++ [last, last]

/-- The test keychain's OpenSSL, with subject names: `serverCert` has an empty
common name, the other certificates below serial 10 none, and a certificate
with a larger serial `n` the name `longCN n`. -/
def credOssl : Ossl :=
  { serverOssl with
    commonName := fun c => if c.serial = 2 then some [] else if c.serial < 10 then none
      else some (longCN c.serial.toUInt8) }

/-- Two peers whose common names differ only in their last two bytes. -/
def peerA : X509 := ⟨0x41, "CN=EPICS Root CA", none⟩

/-- See `peerA`. -/
def peerB : X509 := ⟨0x42, "CN=EPICS Root CA", none⟩

/-- A zeroed buffer. -/
def zeroBuf : NameBuf := ⟨List.replicate 64 0, rfl⟩

/-- Credentials of a TLS connection before `fill_credentials`. -/
def blankCreds : PeerCredentials := ⟨"", "", "", true⟩

/-- Two distinct common names of the maximal length 64 give one account. -/
theorem fill_credentials_account_truncated :
    longCN 0x41 ≠ longCN 0x42 ∧
      (fill_credentials credOssl zeroBuf blankCreds ⟨some peerA, none⟩).2.account =
        (fill_credentials credOssl zeroBuf blankCreds ⟨some peerB, none⟩).2.account := by
  refine ⟨by decide, ?_⟩
  rw [(fill_credentials_account credOssl zeroBuf blankCreds ⟨some peerA, none⟩ rfl rfl (by decide)).2.2.1,
    (fill_credentials_account credOssl zeroBuf blankCreds ⟨some peerB, none⟩ rfl rfl (by decide)).2.2.1]
  rfl

/-- A peer certificate with no common name: method `"x509"` and the account
read from the buffer as the stack left it. -/
theorem fill_credentials_no_cn (uninit : NameBuf) (C : PeerCredentials) (s : PeerSession) {cert : X509}
    (hc : s.peerCert = some cert) (hcn : o.commonName cert = none) :
    (fill_credentials o uninit C s).1 = true ∧ (fill_credentials o uninit C s).2.method = "x509" ∧
      (fill_credentials o uninit C s).2.account = cString (uninit.val.set (nameBufSize - 1) 0) ∧
      (fill_credentials o uninit C s).2.isTLS = C.isTLS := by
  have hr : (X509_NAME_get_text_by_NID (o.commonName cert) uninit.val (nameBufSize - 1)).1 ≠ 0 := by
    simp [hcn, X509_NAME_get_text_by_NID]
  rw [fill_credentials_of_text o hc hr, chainAuthority_eq]
  simp only [hcn, X509_NAME_get_text_by_NID, and_self]

/-- A certificate with no common name. -/
def noCnCert : X509 := ⟨3, "CN=EPICS Root CA", none⟩

/-- A buffer that holds `"admin"` from an earlier call. -/
def staleBuf : NameBuf := ⟨[0x61, 0x64, 0x6d, 0x69, 0x6e] ++ List.replicate 59 0, by decide⟩

/-- A peer certificate without a common name authenticates as the name left on
the stack. -/
example : (fill_credentials credOssl staleBuf blankCreds ⟨some noCnCert, none⟩).2.account = "admin" := by
  rw [(fill_credentials_no_cn credOssl staleBuf blankCreds ⟨some noCnCert, none⟩ rfl rfl).2.2.1]
  decide

/-- An empty common name leaves the credentials as they were, and the call
still returns true. -/
theorem fill_credentials_empty_cn (uninit : NameBuf) (C : PeerCredentials) (s : PeerSession) {cert : X509}
    (hc : s.peerCert = some cert) (hcn : o.commonName cert = some []) :
    fill_credentials o uninit C s = (true, C) := by
  simp [fill_credentials, hc, hcn, get_text_some]

/-- Where the chain step takes an authority from: a last certificate that is a
self-signed CA, and its common name, or the buffer as it was when it has none. -/
theorem chainAuthority_ne {chain : Option (List X509)} {name : List UInt8} {temp : PeerCredentials}
    (h : (chainAuthority o chain name temp).authority ≠ temp.authority) :
    ∃ l root, chain = some l ∧ l.getLast? = some root ∧ o.checkCa root ≠ 0 ∧
      o.extensionFlags root &&& EXFLAG_SS ≠ 0 ∧
      ((∃ d, o.commonName root = some d ∧ d ≠ [] ∧
          (chainAuthority o chain name temp).authority = cString (d.take (nameBufSize - 2))) ∨
        (o.commonName root = none ∧ (chainAuthority o chain name temp).authority = cString name)) := by
  unfold chainAuthority at h ⊢
  split at h
  · exact absurd rfl h
  rename_i l
  split at h
  · exact absurd rfl h
  rename_i root hroot
  generalize hx : X509_NAME_get_text_by_NID (o.commonName root) name (nameBufSize - 1) = t at h ⊢
  obtain ⟨r, name'⟩ := t
  simp only at h ⊢
  split_ifs at h ⊢ with hr hca
  · refine ⟨l, root, rfl, hroot, hca.1, hca.2, ?_⟩
    cases hcn : o.commonName root with
    | none =>
      simp only [hcn, X509_NAME_get_text_by_NID, Prod.mk.injEq] at hx
      exact .inr ⟨rfl, by rw [hx.2]⟩
    | some d =>
      rw [hcn] at hx
      refine .inl ⟨d, rfl, ?_, by rw [← cString_get_text_some d name, hx]⟩
      rintro rfl
      simp [get_text_some] at hx
      exact hr hx.1.symm
  all_goals exact absurd rfl h

theorem fill_credentials_authority (uninit : NameBuf) (C : PeerCredentials) (s : PeerSession)
    (h : (fill_credentials o uninit C s).2.authority ≠ C.authority) :
    ∃ cert l root, s.peerCert = some cert ∧ s.verifiedChain = some l ∧ l.getLast? = some root ∧
      o.checkCa root ≠ 0 ∧ o.extensionFlags root &&& EXFLAG_SS ≠ 0 ∧
      ((∃ d, o.commonName root = some d ∧ d ≠ [] ∧
          (fill_credentials o uninit C s).2.authority = cString (d.take (nameBufSize - 2))) ∨
        (o.commonName root = none ∧
          (fill_credentials o uninit C s).2.authority = (fill_credentials o uninit C s).2.account)) := by
  cases hc : s.peerCert with
  | none => simp [fill_credentials, hc] at h
  | some cert =>
    by_cases hr : (X509_NAME_get_text_by_NID (o.commonName cert) uninit.val (nameBufSize - 1)).1 ≠ 0
    · rw [fill_credentials_of_text o hc hr] at h ⊢
      obtain ⟨l, root, hl, hroot, hca, hss, hsrc⟩ := chainAuthority_ne o h
      refine ⟨cert, l, root, rfl, hl, hroot, hca, hss, ?_⟩
      rcases hsrc with hd | ⟨hn, ha⟩
      · exact .inl hd
      · exact .inr ⟨hn, by rw [ha, chainAuthority_eq]⟩
    · simp [fill_credentials, hc, hr] at h

/-- A chain ending in a root CA with no common name: the authority is the
peer's own account. -/
theorem fill_credentials_authority_self :
    (fill_credentials credOssl zeroBuf blankCreds ⟨some peerA, some [peerA, rootCa]⟩).2.authority ≠
        blankCreds.authority ∧
      ∃ cert l root, (⟨some peerA, some [peerA, rootCa]⟩ : PeerSession).peerCert = some cert ∧
        (⟨some peerA, some [peerA, rootCa]⟩ : PeerSession).verifiedChain = some l ∧ l.getLast? = some root ∧
        credOssl.checkCa root ≠ 0 ∧ credOssl.extensionFlags root &&& EXFLAG_SS ≠ 0 ∧
        ((∃ d, credOssl.commonName root = some d ∧ d ≠ [] ∧
            (fill_credentials credOssl zeroBuf blankCreds ⟨some peerA, some [peerA, rootCa]⟩).2.authority =
              cString (d.take (nameBufSize - 2))) ∨
          (credOssl.commonName root = none ∧
            (fill_credentials credOssl zeroBuf blankCreds ⟨some peerA, some [peerA, rootCa]⟩).2.authority =
              (fill_credentials credOssl zeroBuf blankCreds ⟨some peerA, some [peerA, rootCa]⟩).2.account)) :=
  have h : (fill_credentials credOssl zeroBuf blankCreds ⟨some peerA, some [peerA, rootCa]⟩).2.authority ≠
      blankCreds.authority := by decide
  ⟨h, fill_credentials_authority credOssl zeroBuf blankCreds _ h⟩

end Credentials

end Pvxs
