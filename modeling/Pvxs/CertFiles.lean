import Pvxs.StdString
import Pvxs.Ocsp
import Pvxs.StatusUri
/-
The certificate files of `CertFactory` and `CertFileFactory`: the hashed name
under which a trusted certificate is found (`getCertHashName`), the link made
to it (`createCertSymlink`), and the extension that picks a file's format
(`getExtension`).

`createCertSymlink` splits the certificate path at its last `/` or `\`, makes
the link `<dir><hash>.0` in the certificate's directory, and points it at the
rest of the path.  When the path has no separator, `find_last_of` returns
`npos` and `npos + 1` wraps to 0, so the target is the whole path.

* `getCertHashName_form` — the name is exactly 8 lowercase hex digits and
  `.0`, the name OpenSSL's hashed-directory lookup asks for: `setw(8)` pads a
  small hash, and a 32-bit hash never needs more;
* `createCertSymlink_resolves` — for a path without `\`, the link is made in
  the certificate's directory and, resolved as POSIX resolves a relative link,
  names the certificate;
* `createCertSymlink_backslash` — a `\` in the path (an ordinary character on
  POSIX) puts the link in another directory than the certificate's, and the
  link does not name it;
* `createCertSymlink_error` — neither `substr` throws, also for a path with no
  separator: every failure is a `std::runtime_error`, from reading the
  certificate or from `symlink`;
* `getExtension_eq` — the extension is the longest suffix without a `.`: for
  a name without one, the whole path, directories included.

Design notes: the file system and OpenSSL are `CertFileEnv`.  Only the POSIX
branch of `createCertSymlink` is modelled; the `std::remove` of an old link
before `symlink` is left to the environment.  A `std::string` holds fewer than
`npos` characters (its `max_size`), which the theorems assume of a path.
-/

namespace Pvxs

namespace CertFiles

open StdString

/-- What `getCertHashName` gets from reading a PEM file. -/
inductive PemRead
  /-- the `std::ifstream` cannot be opened -/
  | unopened
  /-- `BIO_new_mem_buf` returns null -/
  | noBio
  /-- `PEM_read_bio_X509_AUX` finds no certificate -/
  | noCert
  | cert (c : X509)
  deriving DecidableEq, Repr

/-- What the file code reads from the file system and OpenSSL. -/
structure CertFileEnv where
  readPem : String → PemRead
  /-- `X509_subject_name_hash` -/
  subjectNameHash : X509 → UInt32
  /-- `symlink(target, linkpath)`: `strerror(errno)` when it fails -/
  symlink : String → String → Except String Unit

/-- The name `getCertHashName` prints for a hash: at least 8 lowercase hex
digits, then `.0`. -/
def hashName (hash : UInt32) : String :=
  String.leftpad 8 '0' ⟨Nat.toDigits 16 hash.toNat⟩ ++ ".0"

/-- The exceptions of the file code: `std::runtime_error`, or
`std::out_of_range` from `substr`. -/
inductive FileExn
  | runtime (msg : String)
  | outOfRange (e : OutOfRange)
  deriving DecidableEq, Repr

/-- `CertFactory::getCertHashName(cert_path)`. -/
def getCertHashName (env : CertFileEnv) (certPath : String) : Except FileExn String :=
  match env.readPem certPath with
  | .unopened => .error (.runtime "Unable to open certificate file")
  | .noBio => .error (.runtime "Failed to create BIO")
  | .noCert => .error (.runtime "Failed to read certificate")
  | .cert cert => .ok (hashName (env.subjectNameHash cert))

/-- A symbolic link made by `symlink(target, path)`. -/
structure Link where
  path : String
  target : String
  deriving DecidableEq, Repr

/-- `CertFactory::createCertSymlink(cert_path)`: the hash name, and the link it
made. -/
def createCertSymlink (env : CertFileEnv) (certPath : String) : Except FileExn (String × Link) := do
  let hashName ← getCertHashName env certPath
  let lastSlash := findLastOf certPath.data "/\\".data
  let dirPath ← if lastSlash ≠ npos then (substr certPath.data 0 (lastSlash + 1)).mapError .outOfRange
    else pure []
  let symlinkPath := String.mk dirPath ++ hashName
  let targetPath ← (substr certPath.data ((lastSlash + 1) % (npos + 1)) npos).mapError .outOfRange
  match env.symlink (String.mk targetPath) symlinkPath with
  | .ok () => pure (hashName, ⟨symlinkPath, String.mk targetPath⟩)
  | .error e => throw (.runtime ("Failed to create symlink: " ++ e))

/-- `CertFileFactory::getExtension(filename)`. -/
def getExtension (filename : String) : Except OutOfRange String :=
  String.mk <$> substr filename.data ((findLastOf filename.data ['.'] + 1) % (npos + 1)) npos

/-- The directory part of a POSIX path: everything up to and with its last
`/`, nothing when it has none. -/
def posixDir (p : List Char) : List Char :=
  match lastIdxOf ['/'] p with
  | some i => p.take (i + 1)
  | none => []

/-- Where a link's target leads: an absolute target as it is, a relative one
from the directory holding the link. -/
def resolve (l : Link) : String :=
  if l.target.data.head? = some '/' then l.target else String.mk (posixDir l.path.data) ++ l.target

theorem posixDir_append_of_forall {s t : List Char} (ht : '/' ∉ t) : posixDir (s ++ t) = posixDir s := by
  unfold posixDir
  rw [lastIdxOf_append_of_forall (by simpa using fun d hd (h : d = '/') => ht (h ▸ hd))]
  split
  · rename_i i hi
    exact List.take_append_of_le_length (lastIdxOf_lt hi)
  · rfl

theorem posixDir_slash (a : List Char) : posixDir (a ++ ['/']) = a ++ ['/'] := by
  rw [posixDir, lastIdxOf_append (List.mem_singleton_self _) (by simp)]
  exact List.take_of_length_le (by simp)

theorem posixDir_of_forall {s : List Char} (h : '/' ∉ s) : posixDir s = [] := by
  simpa using posixDir_append_of_forall (s := []) h

theorem posixDir_length_le (s : List Char) : (posixDir s).length ≤ s.length := by
  unfold posixDir
  split
  exacts [List.length_take_le' _ _, Nat.zero_le _]

/-! ### The hash name -/

/-- `Nat.toDigits 16` prints lowercase hex digits. -/
theorem toDigits_hex_chars (n : ℕ) : ∀ c ∈ Nat.toDigits 16 n, c.isDigit ∨ 'a' ≤ c ∧ c ≤ 'f' := by
  rcases Nat.eq_zero_or_pos n with rfl | hn
  · decide
  rw [toDigits_eq_digits (by norm_num) hn]
  simp only [List.mem_reverse, List.mem_map]
  rintro c ⟨d, hd, rfl⟩
  exact digitChar_lowerHex (Nat.digits_lt_base (by norm_num) hd)

/-- A 32-bit hash has at most 8 hex digits. -/
theorem toDigits_hex_length_le (h : UInt32) : (Nat.toDigits 16 h.toNat).length ≤ 8 := by
  rcases Nat.eq_zero_or_pos h.toNat with h0 | hn
  · rw [h0]; decide
  have hlt : h.toNat < 16 ^ 8 := lt_of_lt_of_eq h.toNat_lt_size (by norm_num)
  rw [toDigits_eq_digits (by norm_num) hn, List.length_reverse, List.length_map,
    Nat.digits_len 16 _ (by norm_num) hn.ne']
  have := (Nat.lt_pow_iff_log_lt (by norm_num) hn.ne').mp hlt
  omega

theorem hashName_data (h : UInt32) :
    (hashName h).data = List.leftpad 8 '0' (Nat.toDigits 16 h.toNat) ++ ['.', '0'] := rfl

/-- The 8 digits of a hash name are lowercase hex digits. -/
theorem hashDigits_chars (h : UInt32) :
    ∀ c ∈ List.leftpad 8 '0' (Nat.toDigits 16 h.toNat), c.isDigit ∨ 'a' ≤ c ∧ c ≤ 'f' := by
  intro c hc
  rcases List.mem_append.mp hc with hc | hc
  · exact .inl (List.eq_of_mem_replicate hc ▸ rfl)
  · exact toDigits_hex_chars _ c hc

theorem hashDigits_length (h : UInt32) : (List.leftpad 8 '0' (Nat.toDigits 16 h.toNat)).length = 8 := by
  rw [List.leftpad_length]
  exact max_eq_left (toDigits_hex_length_le h)

theorem separators_eq : "/\\".data = ['/', '\\'] := rfl

/-- Neither separator occurs in a hash name. -/
theorem hashName_no_sep (h : UInt32) : ∀ c ∈ (hashName h).data, c ∉ "/\\".data := by
  intro c hc
  rw [separators_eq, List.mem_pair]
  rw [hashName_data, List.mem_append] at hc
  rcases hc with hc | hc
  · have hx := hashDigits_chars h c hc
    rintro (rfl | rfl) <;> revert hx <;> decide
  · revert c; decide

theorem getCertHashName_eq_ok {env : CertFileEnv} {certPath name : String}
    (h : getCertHashName env certPath = .ok name) : ∃ cert, env.readPem certPath = .cert cert ∧
      name = hashName (env.subjectNameHash cert) := by
  unfold getCertHashName at h
  split at h <;> cases h
  exact ⟨_, by assumption, rfl⟩

/-- A certificate in the trusted directory for `createCertSymlink`. -/
def caCert : X509 := ⟨1, "CN=EPICS Root CA", none⟩

/-- A certificate store where every file holds `caCert`, whose subject hashes
to `0x1a2b3c`, and every link can be made. -/
def trustEnv : CertFileEnv := ⟨fun _ => .cert caCert, fun _ => 0x1a2b3c, fun _ _ => .ok ()⟩

theorem getCertHashName_form {env : CertFileEnv} {certPath name : String}
    (h : getCertHashName env certPath = .ok name) :
    ∃ digits : List Char, name = String.mk digits ++ ".0" ∧ digits.length = 8 ∧
      ∀ c ∈ digits, c.isDigit ∨ 'a' ≤ c ∧ c ≤ 'f' := by
  obtain ⟨cert, -, rfl⟩ := getCertHashName_eq_ok h
  exact ⟨_, rfl, hashDigits_length _, hashDigits_chars _⟩

/-- A small hash is padded with zeros. -/
theorem getCertHashName_form_padded :
    getCertHashName trustEnv "/etc/pvxs/ca.pem" = .ok "001a2b3c.0" ∧
      ∃ digits : List Char, "001a2b3c.0" = String.mk digits ++ ".0" ∧ digits.length = 8 ∧
        ∀ c ∈ digits, c.isDigit ∨ 'a' ≤ c ∧ c ≤ 'f' :=
  have h : getCertHashName trustEnv "/etc/pvxs/ca.pem" = .ok "001a2b3c.0" := rfl
  ⟨h, getCertHashName_form h⟩

/-! ### The link -/

/-- Where `createCertSymlink` splits the path: after its last `/` or `\`, or
before the whole path when it has neither. -/
theorem createCertSymlink_eq_ok {env : CertFileEnv} {certPath name : String} {l : Link}
    (hlen : certPath.length < npos) (h : createCertSymlink env certPath = .ok (name, l)) :
    getCertHashName env certPath = .ok name ∧ env.symlink l.target l.path = .ok () ∧
      l = match lastIdxOf "/\\".data certPath.data with
        | some i => ⟨⟨certPath.data.take (i + 1)⟩ ++ name, ⟨certPath.data.drop (i + 1)⟩⟩
        | none => ⟨name, certPath⟩ := by
  unfold createCertSymlink findLastOf at h
  cases hn : getCertHashName env certPath with
  | error e => simp only [hn, bind, Except.bind] at h; cases h
  | ok n =>
    have hl : certPath.data.length < npos := hlen
    cases hi : lastIdxOf "/\\".data certPath.data with
    | none =>
      simp only [hn, hi, Option.getD_none, bind, Except.bind, ne_eq, not_true_eq_false, if_false, pure,
        Except.pure, Nat.mod_self, substr_ok npos (Nat.zero_le _), Except.mapError, List.drop_zero,
        List.take_of_length_le hl.le] at h
      split at h <;> cases h
      exact ⟨rfl, by assumption, rfl⟩
    | some i =>
      have hi' := lastIdxOf_lt hi
      simp only [hn, hi, Option.getD_some, bind, Except.bind, ne_eq, show i ≠ npos by omega, not_false_eq_true,
        if_true, Nat.mod_eq_of_lt (show i + 1 < npos + 1 by omega), substr_ok _ (Nat.zero_le _),
        substr_ok _ (show i + 1 ≤ certPath.data.length by omega), Except.mapError, List.drop_zero, pure,
        Except.pure, List.take_of_length_le (show (certPath.data.drop (i + 1)).length ≤ npos by simp; omega)] at h
      split at h <;> cases h
      exact ⟨rfl, by assumption, rfl⟩

/-- The name a link gets has neither separator. -/
theorem createCertSymlink_name_no_sep {env : CertFileEnv} {certPath name : String}
    (h : getCertHashName env certPath = .ok name) : '/' ∉ name.data ∧ '\\' ∉ name.data := by
  obtain ⟨cert, -, rfl⟩ := getCertHashName_eq_ok h
  exact ⟨fun hm => hashName_no_sep _ _ hm (by decide), fun hm => hashName_no_sep _ _ hm (by decide)⟩

/-- A text that does not start with `/` is read relative to the link. -/
theorem head_ne_slash {s : List Char} (h : '/' ∉ s) : s.head? ≠ some '/' := by
  cases s with
  | nil => simp
  | cons c s => simpa using fun hc : c = '/' => h (hc ▸ List.mem_cons_self c s)

/-- Where `createCertSymlink` splits a path at a separator `c` with none after
it. -/
theorem createCertSymlink_split {env : CertFileEnv} {certPath name : String} {l : Link} {a b : List Char}
    {c : Char} (hlen : certPath.length < npos) (hp : certPath.data = a ++ c :: b) (hc : c ∈ "/\\".data)
    (hb : ∀ d ∈ b, d ∉ "/\\".data) (h : createCertSymlink env certPath = .ok (name, l)) :
    getCertHashName env certPath = .ok name ∧ l = ⟨String.mk (a ++ [c]) ++ name, String.mk b⟩ := by
  obtain ⟨hn, -, hl⟩ := createCertSymlink_eq_ok hlen h
  rw [hp, lastIdxOf_append hc hb] at hl
  dsimp only at hl
  refine ⟨hn, hl.trans ?_⟩
  rw [List.append_cons, List.take_left' (by simp), List.drop_left' (by simp)]

theorem createCertSymlink_resolves {env : CertFileEnv} {certPath name : String} {l : Link}
    (hlen : certPath.length < npos) (hbs : '\\' ∉ certPath.data)
    (h : createCertSymlink env certPath = .ok (name, l)) :
    l.path = String.mk (posixDir certPath.data) ++ name ∧ resolve l = certPath := by
  obtain ⟨hn, -, hl⟩ := createCertSymlink_eq_ok hlen h
  have hslash := (createCertSymlink_name_no_sep hn).1
  cases hi : lastIdxOf "/\\".data certPath.data with
  | none =>
    rw [hi] at hl
    subst hl
    have hs : '/' ∉ certPath.data := fun hm => lastIdxOf_eq_none hi _ hm (by decide)
    refine ⟨by rw [posixDir_of_forall hs]; rfl, ?_⟩
    rw [resolve, if_neg (head_ne_slash hs), posixDir_of_forall hslash]
    rfl
  | some i =>
    obtain ⟨a, c, b, hp, hc, hb, rfl⟩ := lastIdxOf_eq_some hi
    have hc' : c = '/' := by
      rw [separators_eq, List.mem_pair] at hc
      exact hc.resolve_right fun h => hbs (hp ▸ h ▸ List.mem_append_right a (List.mem_cons_self c b))
    subst hc'
    obtain ⟨-, rfl⟩ := createCertSymlink_split hlen hp hc hb h
    have hb' : '/' ∉ b := fun hm => hb _ hm (by decide)
    refine ⟨by rw [hp, List.append_cons a '/' b, posixDir_append_of_forall hb', posixDir_slash], ?_⟩
    rw [resolve, if_neg (head_ne_slash hb')]
    show String.mk (posixDir ((a ++ ['/']) ++ name.data)) ++ String.mk b = certPath
    rw [posixDir_append_of_forall hslash, posixDir_slash]
    exact String.ext (by simp [hp])

/-- A trusted certificate gets its link beside it. -/
theorem createCertSymlink_resolves_ca :
    ("/etc/pvxs/ca.pem".length < npos ∧ '\\' ∉ "/etc/pvxs/ca.pem".data ∧
      createCertSymlink trustEnv "/etc/pvxs/ca.pem" = .ok ("001a2b3c.0", ⟨"/etc/pvxs/001a2b3c.0", "ca.pem"⟩)) ∧
      "/etc/pvxs/001a2b3c.0" = String.mk (posixDir "/etc/pvxs/ca.pem".data) ++ "001a2b3c.0" ∧
        resolve ⟨"/etc/pvxs/001a2b3c.0", "ca.pem"⟩ = "/etc/pvxs/ca.pem" :=
  have hlen : "/etc/pvxs/ca.pem".length < npos := by decide
  have hbs : '\\' ∉ "/etc/pvxs/ca.pem".data := by decide
  have h : createCertSymlink trustEnv "/etc/pvxs/ca.pem" =
      .ok ("001a2b3c.0", ⟨"/etc/pvxs/001a2b3c.0", "ca.pem"⟩) := rfl
  ⟨⟨hlen, hbs, h⟩, createCertSymlink_resolves hlen hbs h⟩

theorem createCertSymlink_backslash {env : CertFileEnv} {a b : List Char} {name : String} {l : Link}
    (hlen : (a ++ '\\' :: b).length < npos) (hb : '/' ∉ b ∧ '\\' ∉ b)
    (h : createCertSymlink env (String.mk (a ++ '\\' :: b)) = .ok (name, l)) :
    l.path = String.mk (a ++ ['\\']) ++ name ∧ resolve l = String.mk (posixDir a ++ b) ∧
      resolve l ≠ String.mk (a ++ '\\' :: b) := by
  have hb' : ∀ d ∈ b, d ∉ "/\\".data := by
    intro d hd
    rw [separators_eq, List.mem_pair]
    rintro (rfl | rfl)
    exacts [hb.1 hd, hb.2 hd]
  obtain ⟨hn, rfl⟩ := createCertSymlink_split hlen rfl (by decide) hb' h
  have hres : resolve ⟨String.mk (a ++ ['\\']) ++ name, String.mk b⟩ = String.mk (posixDir a ++ b) := by
    rw [resolve, if_neg (head_ne_slash hb.1)]
    show String.mk (posixDir ((a ++ ['\\']) ++ name.data)) ++ String.mk b = _
    rw [List.append_assoc, posixDir_append_of_forall (by simpa using (createCertSymlink_name_no_sep hn).1)]
    rfl
  refine ⟨rfl, hres, fun heq => ?_⟩
  have hl := congrArg String.length (hres.symm.trans heq)
  have := posixDir_length_le a
  simp only [String.length, List.length_append, List.length_cons] at hl
  omega

/-- On POSIX a `\` is part of a name: the link lands in another directory than
the certificate. -/
theorem createCertSymlink_backslash_elsewhere :
    ("certs\\ca.pem".length < npos ∧ ('/' ∉ "ca.pem".data ∧ '\\' ∉ "ca.pem".data) ∧
      createCertSymlink trustEnv "certs\\ca.pem" = .ok ("001a2b3c.0", ⟨"certs\\001a2b3c.0", "ca.pem"⟩)) ∧
      "certs\\001a2b3c.0" = "certs\\" ++ "001a2b3c.0" ∧ resolve ⟨"certs\\001a2b3c.0", "ca.pem"⟩ = "ca.pem" ∧
        resolve ⟨"certs\\001a2b3c.0", "ca.pem"⟩ ≠ "certs\\ca.pem" :=
  have hlen : ("certs".data ++ '\\' :: "ca.pem".data).length < npos := by decide
  have hb : '/' ∉ "ca.pem".data ∧ '\\' ∉ "ca.pem".data := by decide
  have h : createCertSymlink trustEnv (String.mk ("certs".data ++ '\\' :: "ca.pem".data)) =
      .ok ("001a2b3c.0", ⟨"certs\\001a2b3c.0", "ca.pem"⟩) := rfl
  ⟨⟨hlen, hb, h⟩, createCertSymlink_backslash hlen hb h⟩

/-- The position after the last separator is never past the end, also when
there is none and `npos + 1` wraps to 0. -/
theorem findLastOf_succ_le (s chars : List Char) : (findLastOf s chars + 1) % (npos + 1) ≤ s.length := by
  unfold findLastOf
  cases hi : lastIdxOf chars s with
  | none => simp
  | some i => exact (Nat.mod_le _ _).trans (lastIdxOf_lt hi)

theorem createCertSymlink_error {env : CertFileEnv} {certPath : String} {e : FileExn}
    (h : createCertSymlink env certPath = .error e) :
    (∃ msg, e = .runtime msg) ∧ (getCertHashName env certPath = .error e ∨
      ∃ target path msg, env.symlink target path = .error msg ∧ e = .runtime ("Failed to create symlink: " ++ msg)) := by
  unfold createCertSymlink at h
  cases hn : getCertHashName env certPath with
  | error e' =>
    simp only [hn, bind, Except.bind] at h
    cases h
    unfold getCertHashName at hn
    split at hn <;> cases hn <;> exact ⟨⟨_, rfl⟩, .inl rfl⟩
  | ok n =>
    have hdir : ∀ k, substr certPath.data 0 k = .ok (certPath.data.take k) := fun k => substr_ok k (Nat.zero_le _)
    simp only [hn, hdir, substr_ok npos (findLastOf_succ_le _ _), bind, Except.bind, Except.mapError, pure,
      Except.pure, List.drop_zero] at h
    split at h <;> split at h <;> cases h <;> exact ⟨⟨_, rfl⟩, .inr ⟨_, _, _, by assumption, rfl⟩⟩

/-- A directory where links cannot be made. -/
def readOnlyEnv : CertFileEnv := { trustEnv with symlink := fun _ _ => .error "Permission denied" }

/-- A link that cannot be made is reported with the system's reason. -/
theorem createCertSymlink_error_denied :
    createCertSymlink readOnlyEnv "/etc/pvxs/ca.pem" = .error (.runtime "Failed to create symlink: Permission denied") ∧
      (∃ msg, FileExn.runtime "Failed to create symlink: Permission denied" = .runtime msg) ∧
        (getCertHashName readOnlyEnv "/etc/pvxs/ca.pem" = .error (.runtime "Failed to create symlink: Permission denied") ∨
          ∃ target path msg, readOnlyEnv.symlink target path = .error msg ∧
            FileExn.runtime "Failed to create symlink: Permission denied" =
              .runtime ("Failed to create symlink: " ++ msg)) :=
  have h : createCertSymlink readOnlyEnv "/etc/pvxs/ca.pem" =
      .error (.runtime "Failed to create symlink: Permission denied") := rfl
  ⟨h, createCertSymlink_error h⟩

/-! ### The extension -/

theorem getExtension_eq {filename : String} (hlen : filename.length ≤ npos) :
    getExtension filename = .ok (String.mk (filename.data.reverse.takeWhile (· != '.')).reverse) := by
  have hl : filename.data.length ≤ npos := hlen
  unfold getExtension findLastOf
  cases hi : lastIdxOf ['.'] filename.data with
  | none =>
    have hnd : ∀ c ∈ filename.data.reverse, (c != '.') = true := fun c hc =>
      bne_iff_ne.mpr fun h => lastIdxOf_eq_none hi c (List.mem_reverse.mp hc) (h ▸ List.mem_singleton_self _)
    rw [Option.getD_none, Nat.mod_self, substr_ok _ (Nat.zero_le _), List.drop_zero,
      List.take_of_length_le hl, List.takeWhile_eq_self_iff.mpr hnd, List.reverse_reverse]
    rfl
  | some i =>
    obtain ⟨a, c, b, hp, hc, hb, rfl⟩ := lastIdxOf_eq_some hi
    have hb' : ∀ d ∈ b.reverse, (d != '.') = true := fun d hd =>
      bne_iff_ne.mpr fun h => hb d (List.mem_reverse.mp hd) (h ▸ List.mem_singleton_self _)
    rw [List.mem_singleton.mp hc] at hp
    have hi' := lastIdxOf_lt hi
    rw [Option.getD_some, Nat.mod_eq_of_lt (show a.length + 1 < npos + 1 by omega), substr_ok _ hi', hp,
      show a ++ '.' :: b = (a ++ ['.']) ++ b by simp, List.drop_left' (by simp), List.take_of_length_le (by
        simp only [hp, List.length_append, List.length_cons] at hl; omega),
      List.reverse_append, List.takeWhile_append_of_pos hb']
    simp

/-- A name without a `.` is its own extension, with its directories. -/
theorem getExtension_eq_dotted_dir :
    "/etc/pvxs.d/cert".length ≤ npos ∧ getExtension "/etc/pvxs.d/cert" = .ok "d/cert" ∧
      getExtension "/etc/pvxs.d/cert" =
        .ok (String.mk ("/etc/pvxs.d/cert".data.reverse.takeWhile (· != '.')).reverse) :=
  have hlen : "/etc/pvxs.d/cert".length ≤ npos := by decide
  ⟨hlen, rfl, getExtension_eq hlen⟩

end CertFiles

end Pvxs
