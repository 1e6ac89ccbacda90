import Pvxs.PeerStatus
/-
The certificate management tool `pvxcert` (`main` of `tools/cert.cpp`).

After parsing its command line, `main` checks the flags in a fixed order,
chooses the action from the action flags, names the certificate's status PV
from the positional `cert_id` or from a certificate file, sends one GET or
PUT to it, and waits for the reply.

Once a request is sent, the exit code is 4 when the wait times out, and
otherwise 0 only when no `cert_id` was given: a request for a `cert_id` that
completes exits 5, the code of an interrupted wait (`main_exit_of_request`).
The request is sent only after every flag check passed; a certificate file is
only ever read (a GET), and a PUT goes to `CERT:STATUS:<cert_id>` with the
state of the last action flag in the order `-A`, `-R`, `-D`, which are not
mutually exclusive (`main_request`).

Design notes: CLI11 has parsed the command line into `Options`; the options
that only shape the output (`-v`, `-d`, `-#`) and the timeout, which
`ToolEnv.waited` stands for, are left out.  What the tool reads from the world
is `ToolEnv`: the password line, the certificate of a file
(`IdFileFactory::getCertDataFromFile`, not in src), whether `exec()` threw,
and whether the wait ended before the timeout (a reply, or SIGINT).
-/

namespace Pvxs

namespace CertTool

open CertStatusManager

/-- `Value::Fmt::format_t`, the two formats `stringToFormat` knows. -/
inductive Format
  | Delta | Tree
  deriving DecidableEq, Repr

/-- `stringToFormat`: `std::invalid_argument` for any other text. -/
def stringToFormat (formatStr : String) : Except String Format :=
  if formatStr = "delta" then .ok .Delta
  else if formatStr = "tree" then .ok .Tree
  else .error "Invalid format type"

/-- `CertAction`. -/
inductive CertAction
  | STATUS | APPROVE | DENY | REVOKE
  deriving DecidableEq, Repr

/-- `actionToString`. -/
def actionToString : CertAction → String
  | .STATUS => "Get Status"
  | .APPROVE => "Approve"
  | .REVOKE => "Revoke"
  | .DENY => "Deny"

/-- The command line as CLI11 parsed it: the positional `cert_id` and the
flags and options `main` reads. -/
structure Options where
  argc : ℕ
  issuerSerialString : String := ""
  help : Bool := false
  passwordFlag : Bool := false
  showVersion : Bool := false
  certFile : String := ""
  formatStr : String := ""
  approve : Bool := false
  revoke : Bool := false
  deny : Bool := false
  deriving DecidableEq, Repr

/-- The request `main` sends: a GET of the PV, or a PUT of its `state`. -/
inductive Request
  | get (pv : String)
  | put (pv : String) (state : String)
  deriving DecidableEq, Repr

/-- What `main` reads from the world. -/
structure ToolEnv where
  /-- the line `std::getline` reads after the password prompt -/
  passwordLine : String
  /-- `IdFileFactory::create(cert_file, password)->getCertDataFromFile()`:
  the certificate, or the exception's message -/
  readCertFile : String → String → Except String X509
  /-- `exec()` of the request throws -/
  execThrows : Request → Bool
  /-- `done.wait(timeout)` returns true: the reply, or SIGINT, came in time -/
  waited : Request → Bool

/-- The action the flags select: each flag set overrides the ones checked
before it. -/
def actionOf (o : Options) : CertAction :=
  let action := CertAction.STATUS
  let action := if o.approve then .APPROVE else action
  let action := if o.revoke then .REVOKE else action
  if o.deny then .DENY else action

/-- The request for an action on the status PV `cert_id`. -/
def requestFor : CertAction → String → Request
  | .STATUS, certId => .get certId
  | .APPROVE, certId => .put certId "APPROVED"
  | .DENY, certId => .put certId "DENIED"
  | .REVOKE, certId => .put certId "REVOKED"

/-- The status PV of the certificate in a file, or `none` when reading the
file or finding the extension throws. -/
def certIdFromFile (env : ToolEnv) (certFile password : String) : Option String :=
  (env.readCertFile certFile password).toOption.bind fun cert => (getStatusPvFromCert cert).toOption

/-- What a run of `main` shows: the exit code, the line announcing the action,
and the request sent. -/
structure Run where
  exitCode : ℤ
  announced : Option String := none
  request : Option Request := none
  deriving DecidableEq, Repr

/-- The checks of `main` before any request, in order: the exit code of the
first that stops the tool, or `none` when all pass. -/
def flagCheck (o : Options) : Option ℤ :=
  if o.help then some 0
  else if o.showVersion then some (if o.argc > 2 then 1 else 0)
  else if o.passwordFlag ∧ o.certFile = "" then some 1
  else if o.certFile ≠ "" ∧ (o.approve ∨ o.revoke ∨ o.deny) then some 2
  else
    match (if o.formatStr ≠ "" then (stringToFormat o.formatStr).map some else .ok none) with
    | .error _ => some 6
    | .ok _ => none

/-- The rest of `main`: the status PV, the request, and the wait. -/
def sendRequest (env : ToolEnv) (o : Options) : Run :=
  let password := if o.passwordFlag then env.passwordLine else ""
  let action := actionOf o
  let certId := if o.certFile ≠ "" then certIdFromFile env o.certFile password
    else some ("CERT:STATUS:" ++ o.issuerSerialString)
  match certId with
  | none => ⟨3, none, none⟩
  | some certId =>
    let announced := some (actionToString action ++ " ==> " ++ certId)
    let req := requestFor action certId
    if env.execThrows req then ⟨3, announced, none⟩
    else if !env.waited req then ⟨4, announced, some req⟩
    else if o.issuerSerialString = "" then ⟨0, announced, some req⟩
    else ⟨5, announced, some req⟩

/-- `main(argc, argv)` after the command line is parsed. -/
def main (env : ToolEnv) (o : Options) : Run :=
  match flagCheck o with
  | some code => ⟨code, none, none⟩
  | none => sendRequest env o

/-! ### A run that sends its request -/

/-- The action flags in the order of precedence `actionOf` gives them. -/
theorem actionOf_eq (o : Options) :
    actionOf o = if o.deny then .DENY else if o.revoke then .REVOKE else if o.approve then .APPROVE
      else .STATUS := by
  unfold actionOf
  cases o.deny <;> cases o.revoke <;> cases o.approve <;> rfl

theorem flagCheck_eq_none {o : Options} (h : flagCheck o = none) :
    o.help = false ∧ o.showVersion = false ∧ (o.passwordFlag = true → o.certFile ≠ "") ∧
      (o.certFile ≠ "" → o.approve = false ∧ o.revoke = false ∧ o.deny = false) ∧
      (o.formatStr = "" ∨ o.formatStr = "delta" ∨ o.formatStr = "tree") := by
  unfold flagCheck at h
  split_ifs at h with h1 h2 h3 h4 h5
  · have hf : o.formatStr = "delta" ∨ o.formatStr = "tree" := by
      unfold stringToFormat at h
      split_ifs at h with f1 f2
      exacts [.inl f1, .inr f2, nomatch h]
    simp_all
  · simp_all

theorem sendRequest_eq_request {env : ToolEnv} {o : Options} {req : Request}
    (h : (sendRequest env o).request = some req) :
    ∃ certId, (if o.certFile ≠ "" then certIdFromFile env o.certFile
          (if o.passwordFlag then env.passwordLine else "")
        else some ("CERT:STATUS:" ++ o.issuerSerialString)) = some certId ∧
      req = requestFor (actionOf o) certId ∧
      (sendRequest env o).exitCode = if env.waited req then (if o.issuerSerialString = "" then 0 else 5) else 4 := by
  simp only [sendRequest] at h ⊢
  generalize (if o.certFile ≠ "" then _ else _) = certId at h ⊢
  cases certId with
  | none => cases h
  | some certId =>
    refine ⟨certId, rfl, ?_⟩
    simp only at h ⊢
    split_ifs at h ⊢ <;> cases h <;> simp_all

theorem main_eq_sendRequest {env : ToolEnv} {o : Options} {req : Request} (h : (main env o).request = some req) :
    flagCheck o = none ∧ main env o = sendRequest env o := by
  unfold main at h ⊢
  split at h
  · cases h
  · rename_i hf
    rw [hf]
    exact ⟨rfl, rfl⟩

/-- Once a request is sent, the exit code is 4 on a timeout, and otherwise 0
only without a `cert_id`. -/
theorem main_exit_of_request {env : ToolEnv} {o : Options} {req : Request} (h : (main env o).request = some req) :
    (main env o).exitCode = if env.waited req then (if o.issuerSerialString = "" then 0 else 5) else 4 := by
  obtain ⟨-, hm⟩ := main_eq_sendRequest h
  rw [hm] at h ⊢
  exact (sendRequest_eq_request h).choose_spec.2.2

/-- A tool that reaches the CMS and gets every reply in time. -/
def replyEnv : ToolEnv := ⟨"", fun _ _ => .error "no file", fun _ => false, fun _ => true⟩

/-- `pvxcert -A 27975e6b:7246297371190731775`. -/
def approveOpts : Options := { argc := 3, issuerSerialString := "27975e6b:7246297371190731775", approve := true }

/-- An approval that completes exits 5. -/
example : (main replyEnv approveOpts).exitCode = 5 := by decide

/-- What a request that is sent has passed, and what it is. -/
theorem main_request {env : ToolEnv} {o : Options} {req : Request} (h : (main env o).request = some req) :
    o.help = false ∧ o.showVersion = false ∧ (o.passwordFlag = true → o.certFile ≠ "") ∧
      (o.formatStr = "" ∨ o.formatStr = "delta" ∨ o.formatStr = "tree") ∧
      (o.certFile ≠ "" → ∃ pv, certIdFromFile env o.certFile
          (if o.passwordFlag then env.passwordLine else "") = some pv ∧ req = .get pv) ∧
      (o.certFile = "" → req = requestFor
          (if o.deny then .DENY else if o.revoke then .REVOKE else if o.approve then .APPROVE else .STATUS)
          ("CERT:STATUS:" ++ o.issuerSerialString)) := by
  obtain ⟨hf, hm⟩ := main_eq_sendRequest h
  obtain ⟨hhelp, hver, hpw, hflags, hfmt⟩ := flagCheck_eq_none hf
  rw [hm] at h
  obtain ⟨certId, hc, rfl, -⟩ := sendRequest_eq_request h
  refine ⟨hhelp, hver, hpw, hfmt, fun hfile => ?_, fun hfile => ?_⟩
  · obtain ⟨ha, hr, hd⟩ := hflags hfile
    rw [if_pos hfile] at hc
    exact ⟨certId, hc, by simp [actionOf, ha, hr, hd, requestFor]⟩
  · rw [if_neg (not_not.mpr hfile)] at hc
    cases hc
    rw [actionOf_eq]

/-- `pvxcert -A -D 27975e6b:7246297371190731775`. -/
def approveDenyOpts : Options :=
  { argc := 4, issuerSerialString := "27975e6b:7246297371190731775", approve := true, deny := true }

/-- `-A` and `-D` together deny. -/
example : (main replyEnv approveDenyOpts).request =
    some (.put "CERT:STATUS:27975e6b:7246297371190731775" "DENIED") := by decide

end CertTool

end Pvxs
